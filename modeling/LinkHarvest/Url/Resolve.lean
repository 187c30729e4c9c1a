import LinkHarvest.Url.Split

/-!
# Resolving references

A reference is resolved against a base URL: what it lacks is taken from the base, and a relative
path is read from the directory of the base's path. Schemes without a hierarchy are not resolved.
-/

namespace LinkHarvest.Url

/-- The schemes whose references may be relative. -/
def hierarchicalSchemes : List Text :=
  ["", "ftp", "http", "gopher", "nntp", "imap", "wais", "file", "https", "shttp", "mms",
   "prospero", "rtsp", "rtsps", "rtspu", "sftp", "svn", "svn+ssh", "ws", "wss"]

/-- The schemes whose last path segment may end in parameters. -/
def parameterSchemes : List Text :=
  ["", "ftp", "hdl", "prospero", "http", "imap", "https", "shttp", "rtsp", "rtsps", "rtspu",
   "sip", "sips", "mms", "sftp", "tel"]

/-- A path without the parameters of its last segment, and these parameters. -/
def cutParameters (scheme path : Text) : Text × Text :=
  if parameterSchemes.contains scheme then
    match Text.cutLast '/' path with
    | some (directory, last) =>
      (directory ++ '/' :: Text.before ';' last, Text.after ';' last)
    | none => (Text.before ';' path, Text.after ';' path)
  else (path, [])

/-- The text of a URL from its parts and the parameters of its path. -/
def assemble (p : Parts) (parameters : Text) : Text :=
  let path := if parameters.isEmpty then p.path else p.path ++ ';' :: parameters
  let place :=
    if p.netloc.isEmpty && !path.startsWith ['/', '/'] then path
    else if path.isEmpty || path.startsWith ['/'] then ['/', '/'] ++ p.netloc ++ path
    else ['/', '/'] ++ p.netloc ++ '/' :: path
  Text.concat [
    if p.scheme.isEmpty then [] else p.scheme ++ [':'],
    place,
    if p.query.isEmpty then [] else '?' :: p.query,
    if p.fragment.isEmpty then [] else '#' :: p.fragment]

/-- Takes the steps of a path one after the other; `done` holds the segments so far, last first. -/
def follow (done : List Text) : List Text → List Text
  | [] => done.reverse
  | segment :: rest =>
    if segment = ['.', '.'] then follow (done.drop 1) rest
    else if segment = ['.'] then follow done rest
    else follow (segment :: done) rest

/-- The path that a relative path leads to from the directory of a base path. -/
def resolvedPath (base path : Text) : Text :=
  let segments :=
    if path.startsWith ['/'] then Text.split '/' path
    else
      let all := (Text.split '/' base).dropLast ++
        (if base.endsWith ['/'] || base.isEmpty then [[]] else []) ++ Text.split '/' path
      match all with
      | [] => []
      | first :: rest => first :: rest.dropLast.filter (!·.isEmpty) ++ rest.drop (rest.length - 1)
  let followed := follow [] segments
  let last := segments.getLastD []
  let followed := if last = ['.'] ∨ last = ['.', '.'] then followed ++ [[]] else followed
  let joined := Text.joined ['/'] followed
  if joined.isEmpty then ['/'] else joined

def resolve (base reference : Text) : Except Problem Text := do
  if base.isEmpty then return reference
  if reference.isEmpty then return base
  let b ← split base
  let r ← split reference
  let scheme := if r.scheme.isEmpty then b.scheme else r.scheme
  let (basePath, baseParameters) := cutParameters b.scheme b.path
  let (path, parameters) := cutParameters scheme r.path
  if scheme ≠ b.scheme ∨ !hierarchicalSchemes.contains scheme then return reference
  if !r.netloc.isEmpty then return assemble { r with scheme, path } parameters
  if path.isEmpty && parameters.isEmpty then
    let query := if r.query.isEmpty then b.query else r.query
    return assemble ⟨scheme, b.netloc, basePath, query, r.fragment⟩ baseParameters
  return assemble ⟨scheme, b.netloc, resolvedPath basePath path, r.query, r.fragment⟩ parameters

end LinkHarvest.Url
