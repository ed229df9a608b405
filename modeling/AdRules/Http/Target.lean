import AdRules.Text.Cut
import AdRules.Text.Escaped
import AdRules.Text.Script
import AdRules.Text.Quoted

/-!
# Targets of requests

A target is a path with a query behind a question mark; what follows a number sign is dropped, and
so are a scheme and the name of a host in front of the path. Control characters are in no target. In
the path, steps to the same place and to the place above are carried out first; then the escapes are
resolved, and once more those that this uncovers. In the query, `+` stands for a blank and of two
values of one name the later one counts.
-/

namespace AdRules.Http

/-- Where a request goes. The query is as it was written. -/
structure Target where
  path : String
  query : String

/-- One step along a path, given the steps before it, the last one first. -/
def walk (steps : List String) (step : String) : List String :=
  if step = "." then steps
  else if step = ".." then
    match steps with
    | [] => []
    | [""] => [""]
    | _ :: before => before
  else step :: steps

/-- A path without steps to the same place or to the place above. -/
def straighten (path : String) : String :=
  "/".intercalate ((Text.split '/' path).foldl walk []).reverse

/-- A place as it is written: a scheme and a host, either of which may be empty, and a path. -/
structure Reference where
  scheme : List Char
  host : List Char
  path : List Char

namespace Reference

/-- A scheme, which is a word before a colon, and what follows it. -/
def cutScheme (text : List Char) : List Char × List Char :=
  let isInner (c : Char) : Bool := c.isAlphanum || c == '+' || c == '.' || c == '-'
  let scheme := text.takeWhile isInner
  match text.dropWhile isInner with
  | ':' :: rest => if scheme.head?.all Char.isAlpha then (scheme, rest) else ([], text)
  | _ => ([], text)

/-- A host, which follows two slashes, and the path behind it. -/
def cutHost : List Char → List Char × List Char
  | '/' :: '/' :: rest => (rest.takeWhile (· ≠ '/'), rest.dropWhile (· ≠ '/'))
  | path => ([], path)

/-- The reference that a text without a question mark is, with what follows a number sign dropped.
    -/
def ofText (text : String) : Reference :=
  let (scheme, rest) := cutScheme text.toList
  let (host, path) := cutHost rest
  ⟨scheme, host, path⟩

/-- The characters behind the last occurrence of one, or all of them. -/
def behindLast (mark : Char) (text : List Char) : List Char :=
  (text.reverse.takeWhile (· ≠ mark)).reverse

/-- The port, behind the first colon of the host or behind the brackets that it stands in; a name
    for the user may stand before the host. -/
def port (reference : Reference) : String :=
  let named := behindLast '@' reference.host
  let behind :=
    if named.head? = some '[' && named.contains ']' then behindLast ']' named
    else named.dropWhile (· ≠ ':')
  String.ofList (if behind.head? = some ':' then behind.tail else behind)

/-- Why a reference is none: its port is no number, or its path could be taken for a host or the end
    of a scheme. -/
def fault? (reference : Reference) : Option String :=
  let isBare := reference.scheme.isEmpty && reference.host.isEmpty
  if !reference.port.isEmpty && (Text.toInteger reference.port).value?.isNone then
    some ("Invalid port: " ++ Text.quoted reference.port)
  else if isBare && "//".toList.isPrefixOf reference.path then
    some "Relative URLs cannot have a path starting with '//'"
  else if isBare && reference.path.head? = some ':' then
    some "Relative URLs cannot have a path starting with ':'"
  else none

end Reference

namespace Target

/-- A control character of ASCII, which no target may hold. -/
def isControl (c : Char) : Bool := decide (c.toNat < 0x20) || decide (c.toNat = 0x7F)

/-- The most characters of a text that names a target. -/
def mostCharacters : Nat := 65536

/-- What stands before the query of a text, and the query. -/
def cutQuery (text : String) : String × Option String := Text.cut '?' (Text.cut '#' text).1

/-- Why a text names no target: it is too long, it has a control character, of which the first is
    named with its place, or it is no reference. -/
def fault? (text : String) : Option String :=
  let chars := text.toList
  if mostCharacters < chars.length then some "URL too long"
  else
    match chars.dropWhile (!isControl ·) with
    | [] => (Reference.ofText (cutQuery text).1).fault?
    | c :: _ =>
      some ("Invalid non-printable ASCII character in URL, " ++ Text.quoted (String.singleton c) ++
        " at position " ++ toString (chars.takeWhile (!isControl ·)).length ++ ".")

/-- The target that a text names, in the steps that the header says. -/
def ofText (text : String) : Target :=
  let (place, query) := cutQuery text
  let path := (Reference.ofText place).path.dropWhile (· = '/')
  ⟨Text.unescape (Text.unescape (straighten ("/" ++ String.ofList path))), query.getD ""⟩

/-- A part of a query in plain text: blanks for plus signs first, then its escapes resolved. -/
def plainPart (part : String) : String :=
  Text.unescape (String.ofList (part.toList.map fun c => if c = '+' then ' ' else c))

/-- The values of the query by name, in order. Parts without an equals sign have empty values. -/
def entries (target : Target) : List (String × String) :=
  (Text.split '&' target.query).filterMap fun part =>
    if part.isEmpty then none
    else
      let (name, value) := Text.cut '=' part
      some (plainPart name, plainPart (value.getD ""))

/-- The value that counts for a name: the last one, and none where the name does not occur. -/
def value? (target : Target) (name : String) : Option String :=
  (target.entries.reverse.find? fun entry => entry.1 == name).map (·.2)

/-- The path without the slashes at its end, when there are any. -/
def trimmed? (target : Target) : Option String :=
  if target.path ≠ "/" ∧ target.path.endsWith "/" then
    some (String.ofList (target.path.toList.reverse.dropWhile (· = '/')).reverse)
  else none

/-- The target of a path that is written with escapes and asked for anew; of the two times that
    escapes are resolved the second one finds those that the path held itself. -/
def again (target : Target) (path : String) : Target :=
  { target with path := Text.unescape (straighten path) }

end Target

end AdRules.Http
