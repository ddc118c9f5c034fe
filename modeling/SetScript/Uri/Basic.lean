import SetScript.Uri.Path

/-!
# Resource identifiers

Documents and directories are named by identifiers such as
`file:///home/script.setl`.  An identifier has a scheme and, after a colon,
perhaps a host and a path, and then perhaps a query and a fragment.

One identifier can be spelled in several ways.  Reading it brings each of its
parts into a normal form, and identifiers are told apart by the text of that form.
-/

namespace SetScript

/-- A resource identifier, with each of its parts in its normal form. -/
structure Uri where
  /-- The scheme, in lower case. -/
  scheme : List Char
  authority? : Option Uri.Authority := none
  /-- The segments of the path, escapes included, unless it has none. -/
  segments? : Option (List (List Char)) := none
  /-- The text that stands for a path without segments. -/
  content : List Char := []
  query? : Option (List Char) := none
  fragment? : Option (List Char) := none

namespace Uri

open Text

/-! ## Reading -/

/-- A text without blanks and controls at its ends, and without tabs and line ends. -/
def clean (text : List Char) : List Char :=
  let isMargin (c : Char) : Bool := c.toNat ≤ 32
  let trimmed := ((text.dropWhile isMargin).reverse.dropWhile isMargin).reverse
  trimmed.filter fun c => c != '\t' && c != '\n' && c != '\r'

/-- Split a text into its scheme and what follows the colon. -/
def splitScheme? (text : List Char) : Option (List Char × List Char) :=
  let scheme := text.takeWhile fun c => c.isAlphanum || c == '+' || c == '-' || c == '.'
  match text.drop scheme.length with
  | ':' :: rest => if scheme.head?.any Char.isAlpha then some (scheme, rest) else none
  | _ => none

/-- Take over the query and the fragment of a text. -/
def withQueryOf (uri : Uri) (kind : SchemeKind) (text : List Char) : Uri :=
  let marked := text.dropWhile fun c => c != '?' && c != '#'
  let query := marked.takeWhile (· != '#')
  let reserved := reservedInQuery ++ if kind = .open then [] else ['\'']
  { uri with
    query? := query.tail?.map (escape reserved)
    fragment? := (marked.drop query.length).tail?.map (escape reservedInFragment) }

/-- An identifier with an authority, after its two slashes. -/
def ofAuthority (scheme text : List Char) : Except Problem Uri :=
  let kind := SchemeKind.ofScheme scheme
  let written := text.takeWhile (!kind.endsHost ·)
  let path := text.drop written.length
  (Authority.read scheme path.isEmpty written).map fun (authority, left) =>
    let path := left ++ path
    let hasPath := kind == .hierarchical || path.head?.any fun c => c != '?' && c != '#'
    let segments? := if hasPath then some (segmentsOf kind (afterSlash kind path)) else none
    withQueryOf { scheme := scheme, authority? := some authority, segments? := segments? } kind path

/-- The identifier of a file, with the host of its authority.  A drive takes the
place of the host. -/
def ofFile (host : HostName) (path : List Char) : Uri :=
  let segments := segmentsOf .file path
  let host := if segments.head?.any isDrive then .absent else host
  withQueryOf
    { scheme := "file".toList
      authority? := some { host := host }
      segments? := some (withoutMargin segments) } .file path

/-- The identifier of a file, after the colon. -/
def fileUri (text : List Char) : Except Problem Uri :=
  match text with
  | first :: second :: rest =>
      if SchemeKind.file.isSlash first && SchemeKind.file.isSlash second then
        let name := rest.takeWhile (!SchemeKind.file.endsHost ·)
        let path := afterSlash .file (rest.drop name.length)
        if name.isEmpty then .ok (ofFile .absent path)
        else if isDrive name then .ok (ofFile .absent rest)
        else (domainHost name).map fun host => ofFile (if host = .here then .absent else host) path
      else
        .ok (ofFile .absent (afterSlash .file text))
  | _ => .ok (ofFile .absent (afterSlash .file text))

/-- An identifier of an open scheme, after the colon. -/
def openUri (scheme : List Char) (text : List Char) : Except Problem Uri :=
  match text with
  | '/' :: '/' :: authority => ofAuthority scheme authority
  | '/' :: path =>
      .ok (withQueryOf { scheme := scheme, segments? := some (segmentsOf .open path) } .open path)
  | _ =>
      let content := text.takeWhile fun c => c != '?' && c != '#'
      .ok (withQueryOf { scheme := scheme, content := escape [] content } .open text)

/-- The identifier that a text is, or why it is none. -/
def parse (text : String) : Except Problem Uri :=
  match splitScheme? (clean text.toList) with
  | none => .error .relative
  | some (written, rest) =>
      let scheme := written.map Char.toLower
      match SchemeKind.ofScheme scheme with
      | .file => fileUri rest
      | .hierarchical => ofAuthority scheme (rest.dropWhile SchemeKind.hierarchical.isSlash)
      | .open => openUri scheme rest

/-! ## Writing -/

/-- The path of an identifier. -/
def path (uri : Uri) : List Char :=
  match uri.segments? with
  | some segments => joinSegments segments
  | none => uri.content

/-- The text of an identifier.  Where a path without a host starts with an empty
segment, a dot before it keeps it from being taken for a host. -/
def text (uri : Uri) : String :=
  let place :=
    match uri.authority? with
    | some authority => ['/', '/'] ++ authority.text
    | none => if ['/', '/'].isPrefixOf uri.path then ['/', '.'] else []
  let query := (uri.query?.map ('?' :: ·)).getD []
  let fragment := (uri.fragment?.map ('#' :: ·)).getD []
  String.ofList (uri.scheme ++ [':'] ++ place ++ uri.path ++ query ++ fragment)

/-- The text of the identifier that a text is; a text that is none stays as it is. -/
def normalize (text : String) : String :=
  match parse text with
  | .ok uri => uri.text
  | .error _ => text

/-! ## Files -/

/-- The path of the file or directory that an identifier names on this host.  A
drive at the end of a path is a directory. -/
def filePath? (uri : Uri) : Option String :=
  match uri.segments? with
  | none => none
  | some segments =>
      let host := (uri.authority?.map Authority.host).getD .absent
      if host = .absent ∨ host = .here then
        (decodeBytes? (unescape (joinSegments segments))).map fun path =>
          if isDrive (path.toList.drop (path.length - 2)) && 2 < path.length then path ++ "/"
          else path
      else
        none

end Uri

end SetScript
