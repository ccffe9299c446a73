import PostSlots.Decimal.Numeral
import PostSlots.Text.Blank
import PostSlots.Url.Host

/-!
# Reading URLs

`Url.parse` reads a text as browsers do: blanks at the ends and line breaks anywhere do not count,
a special scheme makes slashes of backslashes, and the segments `.` and `..` are resolved.
-/

namespace PostSlots.Url

/-! ## Paths -/

/-- Spellings of the segment that stays where it is. -/
def isDot (segment : List Char) : Bool :=
  segment.map Char.toLower ∈ [".".toList, "%2e".toList]

/-- Spellings of the segment that goes up. -/
def isDoubleDot (segment : List Char) : Bool :=
  segment.map Char.toLower ∈
    ["..".toList, ".%2e".toList, "%2e.".toList, "%2e%2e".toList]

/-- The letter of a drive and a colon, or a bar in its place. -/
def isDrive (segment : List Char) : Bool :=
  match segment with
  | [letter, mark] => letter.isAlpha && (mark == ':' || mark == '|')
  | _ => false

/-- A drive in front of a backslash or alone. -/
def startsWithDrive (segment : List Char) : Bool :=
  isDrive (segment.takeWhile (· != '\\'))

/-- The segments after going up. Nothing goes up from a drive, whatever the scheme. -/
def goUp (names : List String) : List String :=
  match names.getLast? with
  | some name => if startsWithDrive name.toList then names else names.dropLast
  | none => []

/-- The form of a segment behind others. A drive at the start of a file's path has a colon. -/
def normalName (isFile : Bool) (names : List String) (segment : List Char) : String :=
  if isFile && names.isEmpty && isDrive segment then String.ofList (segment.take 1 ++ [':'])
  else String.ofList (percentEncode inPathSet segment)

/-- Appends segments to a path. A last segment that goes up or stays leaves an empty one. -/
def extendPath (isFile : Bool) (names : List String) : List (List Char) → List String
  | [] => names
  | [last] =>
    if isDoubleDot last then goUp names ++ [""]
    else if isDot last then names ++ [""]
    else names ++ [normalName isFile names last]
  | segment :: segments =>
    if isDoubleDot segment then extendPath isFile (goUp names) segments
    else if isDot segment then extendPath isFile names segments
    else extendPath isFile (names ++ [normalName isFile names segment]) segments

/-- What separates segments, and ends an authority. -/
def isSlash (special : Bool) (c : Char) : Bool :=
  c == '/' || (special && c == '\\')

/-- Cuts the text behind a path's first slash into segments and appends them. -/
def readPath (scheme : String) (names : List String) (cs : List Char) : List String :=
  extendPath (scheme == "file") names (Text.cut (isSlash (isSpecial scheme)) cs)

/-- The path behind an authority: its first slash may be missing, and only a scheme that is not
special allows an empty path. -/
def readPathStart (scheme : String) : List Char → List String
  | [] => if isSpecial scheme then readPath scheme [] [] else []
  | c :: cs =>
    if isSlash (isSpecial scheme) c then readPath scheme [] cs else readPath scheme [] (c :: cs)

/-- Paths of files do not start with empty segments. -/
def dropEmpty (names : List String) : List String :=
  match names.dropWhile String.isEmpty with
  | [] => [""]
  | names => names

/-! ## Query and fragment -/

/-- The characters that end a path. -/
def endsPath (c : Char) : Bool :=
  c == '?' || c == '#'

/-- Reads a fragment behind its mark. -/
def readFragment (cs : List Char) : String :=
  String.ofList (percentEncode inFragmentSet cs)

/-- Reads a query and a fragment, each with its mark. -/
def readTail (special : Bool) : List Char → Option String × Option String
  | '?' :: cs =>
    let inSet := if special then inSpecialQuerySet else inQuerySet
    let query := String.ofList (percentEncode inSet (cs.takeWhile (· != '#')))
    match cs.dropWhile (· != '#') with
    | [] => (some query, none)
    | _ :: cs => (some query, some (readFragment cs))
  | '#' :: cs => (none, some (readFragment cs))
  | _ => (none, none)

/-- Puts a URL together from its parts and the text of its query and fragment. -/
def withTail (scheme : String) (authority : Option Authority) (path : Path) (tail : List Char) :
    Url :=
  let (query, fragment) := readTail (isSpecial scheme) tail
  ⟨scheme, authority, path, query, fragment⟩

/-! ## Authorities -/

/-- Splits a text at its last `@`. -/
def splitUser? (cs : List Char) : Option (List Char × List Char) :=
  let back := cs.reverse
  match back.dropWhile (· != '@') with
  | [] => none
  | _ :: user => some (user.reverse, (back.takeWhile (· != '@')).reverse)

/-- User name and password, in their encoded forms. -/
def readUser (cs : List Char) : String × String :=
  let encoded (part : List Char) := String.ofList (percentEncode inUserSet part)
  (encoded (cs.takeWhile (· != ':')), encoded ((cs.dropWhile (· != ':')).drop 1))

/-- Splits a host from what follows it: a colon ends it outside brackets. -/
def splitHost (special : Bool) : (inBrackets : Bool) → List Char → List Char × List Char
  | _, [] => ([], [])
  | inBrackets, c :: cs =>
    if (c == ':' && !inBrackets) || isSlash special c || endsPath c then ([], c :: cs)
    else
      let (host, rest) := splitHost special (c == '[' || (inBrackets && c != ']')) cs
      (c :: host, rest)

/-- Reads the host of a scheme. An empty one is only allowed without a port, and only where the
scheme is not special. -/
def readHost (scheme : String) (host rest : List Char) : Except Fault (Option Host) :=
  if host.isEmpty then
    if isSpecial scheme || rest.head? == some ':' then .error .emptyHost else .ok none
  else if isSpecial scheme then (Host.readSpecial host).map some
  else (Host.readOther host).map some

/-- The largest port. -/
def portBound : Nat := Nat.pow 2 16

/-- Reads a port behind its colon, and returns what follows it. -/
def readPort (scheme : String) (cs : List Char) : Except Fault (Option Nat × List Char) :=
  let digits := cs.takeWhile Char.isDigit
  let rest := cs.dropWhile Char.isDigit
  let n := Decimal.ofDigits digits
  if portBound ≤ n then .error .invalidPort
  else if (rest.head?.map fun c => !(isSlash true c || endsPath c)).getD false then
    .error .invalidPort
  else if digits.isEmpty || defaultPort? scheme == some n then .ok (none, rest)
  else .ok (some n, rest)

/-- Reads what follows the two slashes. A user needs a host. -/
def readAuthority (scheme : String) (cs : List Char) : Except Fault Url := do
  let special := isSpecial scheme
  let ends (c : Char) := isSlash special c || endsPath c
  let extent := cs.takeWhile fun c => !ends c
  let behind := cs.dropWhile fun c => !ends c
  let (user, place) := match splitUser? extent with
    | none => (none, extent)
    | some (user, place) => (some user, place)
  if user == some [] && place.isEmpty && !behind.isEmpty then throw .emptyHost
  let (hostText, rest) := splitHost special false (place ++ behind)
  let host ← readHost scheme hostText rest
  let (port, rest) ← match rest with
    | ':' :: cs => readPort scheme cs
    | rest => pure (none, rest)
  let (username, password) := readUser (user.getD [])
  if host.isNone && !(username.isEmpty && password.isEmpty) then throw .emptyHost
  let path := readPathStart scheme (rest.takeWhile fun c => !endsPath c)
  pure (withTail scheme (some ⟨username, password, host, port⟩) (.segments path)
    (rest.dropWhile fun c => !endsPath c))

/-! ## Files -/

/-- A file on this machine. -/
def localFile : Authority := ⟨"", "", none, none⟩

/-- A file's host and path. A path that starts with a drive has no host. -/
def fileUrl (host : Option Host) (path : List String) (tail : List Char) : Url :=
  let host := match path with
    | name :: _ => if isDrive name.toList then none else host
    | [] => host
  withTail "file" (some { localFile with host := host }) (.segments (dropEmpty path)) tail

/-- Reads the host of a file. -/
def readFileHost (cs : List Char) : Except Fault (Option Host) :=
  if cs.isEmpty then .ok none
  else do
    let host ← Host.readSpecial cs
    pure (if host = .name "localhost" then none else some host)

/-- Reads what follows the scheme of a file. Without a host the slash in front of the path counts
as an empty segment, behind which no drive is at the start. -/
def readFile (cs : List Char) : Except Fault Url := do
  let tail := cs.dropWhile fun c => !endsPath c
  match cs.takeWhile fun c => !endsPath c with
  | [] => pure (fileUrl none (readPath "file" [] []) tail)
  | [c] =>
    pure (fileUrl none (readPath "file" [] (if isSlash true c then [] else [c])) tail)
  | c :: d :: rest =>
    if isSlash true c && isSlash true d then
      let host := rest.takeWhile fun c => !isSlash true c
      let behind := rest.dropWhile fun c => !isSlash true c
      if isDrive host then pure (fileUrl none (readPath "file" [] rest) tail)
      else match ← readFileHost host with
        | none => pure (fileUrl none (readPath "file" [] behind) tail)
        | some host => pure (fileUrl (some host) (readPathStart "file" behind) tail)
    else
      let path := if isSlash true c then d :: rest else c :: d :: rest
      pure (fileUrl none (readPath "file" [] path) tail)

/-! ## Whole URLs -/

/-- Splits off a scheme: a letter, then letters, digits, `+`, `-` and `.` up to a colon. -/
def splitScheme? (cs : List Char) : Option (String × List Char) :=
  let isPart (c : Char) := c.isAlphanum || c == '+' || c == '-' || c == '.'
  match cs.takeWhile isPart, cs.dropWhile isPart with
  | c :: name, ':' :: rest =>
    if c.isAlpha then some (String.ofList ((c :: name).map Char.toLower), rest) else none
  | _, _ => none

/-- Reads what follows the scheme of a URL. -/
def readAbsolute (scheme : String) (cs : List Char) : Except Fault Url :=
  if scheme == "file" then readFile cs
  else if isSpecial scheme then readAuthority scheme (cs.dropWhile (isSlash true))
  else
    let tail := cs.dropWhile fun c => !endsPath c
    match cs with
    | '/' :: '/' :: rest => readAuthority scheme rest
    | '/' :: rest =>
      let path := readPath scheme [] (rest.takeWhile fun c => !endsPath c)
      .ok (withTail scheme none (.segments path) tail)
    | cs =>
      let path := percentEncode inControlSet (cs.takeWhile fun c => !endsPath c)
      .ok (withTail scheme none (.rootless (String.ofList path)) tail)

/-- A text without blanks and control characters at its ends, and without tabs and line breaks. -/
def cleaned (text : String) : List Char :=
  (Text.trimWhile (· ≤ ' ') text.toList).filter fun c => c != '\t' && c != '\n' && c != '\r'

/-- Reads an absolute URL. -/
def parse (text : String) : Except Fault Url :=
  match splitScheme? (cleaned text) with
  | some (scheme, rest) => readAbsolute scheme rest
  | none => .error .relativeWithoutBase

end PostSlots.Url
