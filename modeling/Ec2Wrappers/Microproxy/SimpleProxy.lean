import Ec2Wrappers.Foundations.Perl
import Ec2Wrappers.Foundations.Uri

/-!
# The rewriting proxy

`simpleproxy.perl` shows pages of hosts inside EC2 under paths of its own. Links in a page and
redirects are rewritten from `http://host:port/path?query` to `/host/port/path?query` when
`should_rewrite_url` holds of them (`startTag`, `fixRedirects`). A request for such a path is sent
on to the host and port it names (`filter`): the path is split into at most four fields, the server
and the port have to pass a check of their own, and everything else goes to the default URL.

The program handles URIs through a library, which is a parameter. Headers and attributes are read by
name; the names of headers are in lower case.

`targetUri` is the URI that the request filter puts together, as its components: the authority ends
at the first slash after it, so what is appended to the default URL belongs to the authority up to
there. `text_targetUri` says that its text is what the filter writes.
-/

set_option autoImplicit false
set_option relaxedAutoImplicit false

namespace Ec2Wrappers.Microproxy

open Foundations Perl

/-! ### Which URIs are rewritten -/

/-- `/\.amazonaws.com$/`. -/
def amazonPattern : Pattern :=
  ⟨false, literal ".amazonaws".toList ++ anyCharacter ++ literal "com".toList, true⟩

/-- `/\.amazonaws.com$/i`. -/
def amazonPatternIgnoringCase : Pattern :=
  ⟨false, literalIgnoringCase ".amazonaws".toList ++ anyCharacter ++
    literalIgnoringCase "com".toList, true⟩

/-- `/\.internal$/`. -/
def internalPattern : Pattern := ⟨false, literal ".internal".toList, true⟩

/-- `/^localhost$/`. -/
def localhostPattern : Pattern := ⟨true, literal "localhost".toList, true⟩

/-- The hosts and ports that `should_rewrite_url` asks for. -/
def isRewrittenServer (server : HostPort) : Bool :=
  amazonPatternIgnoringCase.matches server.host || internalPattern.matches server.host ||
    Pattern.matches ⟨true, literal "10.".toList, false⟩ server.host ||
    ((localhostPattern.matches server.host ||
        Pattern.matches ⟨false, literal "127.0.0.1".toList, false⟩ server.host) &&
      isAboveThousand server.port)

/-- `should_rewrite_url`. -/
def shouldRewriteUrl (lib : UriLibrary) (uri : Text) : Bool :=
  lib.scheme uri = some "http".toList && isRewrittenServer ⟨lib.host uri, lib.port uri⟩

/-! ### Links and redirects -/

/-- The scheme and the slashes that the program writes. -/
def httpPrefix : Text := "http://".toList

theorem http_append : "http".toList ++ "://".toList = httpPrefix := by decide

/-- The headers of a message, by name in lower case. -/
abbrev Headers := Text → Option Text

/-- The attributes of a tag, by name. -/
abbrev Attributes := Text → Option Text

/-- The query, unless it is false. -/
def trueQuery (query : Option Text) : Option Text := query.filter isTrueText

/-- The path and the query that `start_tag` and the redirect filter write for a URI. -/
def fixedUri (lib : UriLibrary) (uri : Text) : Text :=
  '/' :: lib.host uri ++ '/' :: lib.port uri ++ rootPath (lib.path uri) ++
    queryText (trueQuery (lib.query uri))

/-- The attributes `start_tag` looks at. -/
def uriAttributes : List Text := ["href".toList, "src".toList]

/-- The attributes of a tag after `start_tag`, before they are printed. -/
def startTag (lib : UriLibrary) (baseUri : Text) (attrs : Attributes) : Attributes := fun name ↦
  if name ∈ uriAttributes then
    (attrs name).map fun value ↦
      let uri := lib.newAbs value baseUri
      if shouldRewriteUrl lib uri then fixedUri lib uri else value
  else attrs name

/-- What the rewritten redirects start with: the host and the port of the proxy. -/
def proxyOrigin (lib : UriLibrary) (origUri : Text) : Text :=
  httpPrefix ++ lib.host origUri ++ ':' :: lib.port origUri

/-- The headers of a response after the redirect filter. -/
def fixRedirects (lib : UriLibrary) (origUri : Text) (headers : Headers) : Headers := fun name ↦
  if name = "location".toList then
    (headers name).map fun location ↦
      if isTrueText location && shouldRewriteUrl lib location then
        proxyOrigin lib origUri ++ fixedUri lib location
      else location
  else headers name

/-- The path with a slash in front. -/
def rootedPath (path : Text) : Text := if path.head? = some '/' then path else '/' :: path

theorem escape_rootedPath (path : Text) :
    escape isPathChar (rootedPath path) = '/' :: escape isPathChar (rootedPath path).tail := by
  have hslash : isPathChar '/' = true := by decide
  rw [rootedPath]
  split_ifs with hroot
  · obtain ⟨rest, rfl⟩ := List.head?_eq_some_iff.mp hroot
    rw [escape_cons_kept hslash, List.tail_cons]
  · rw [escape_cons_kept hslash, List.tail_cons]

/-- The request for a link to a path and a query that stands on a page. -/
def followLink (page : HttpUri) (link : Text) : HttpUri where
  scheme := page.scheme
  authority := page.authority
  path := escape isPathChar (rootedPath (pathPart link))
  query := (queryPart link).map (escape isUric)
  fragment := none
  scheme_http := page.scheme_http
  authority_chars := page.authority_chars
  path_chars _ hc := keep_of_mem_escape keepsEscapes_isPathChar hc
  path_rooted := .inr ⟨_, escape_rootedPath _⟩
  query_chars := by
    intro text htext c hc
    obtain ⟨query, -, rfl⟩ := Option.map_eq_some_iff.mp htext
    exact keep_of_mem_escape keepsEscapes_isUric hc
  fragment_chars := by simp

/-! ### Requests -/

/-- A request, by its URI and headers. -/
structure Message where
  uri : Text
  headers : Headers

/-- The server, the port and the rest that a request path names. -/
structure PathFields where
  server : Text
  port : Text
  rest : Text
  deriving DecidableEq, Repr

/-- The fields of a request path; `favicon.ico` and `static` name no server. -/
def pathFields (path : Text) : PathFields :=
  let fields := split '/' path 4
  let server := field fields 1
  let port := field fields 2
  if server = "favicon.ico".toList then ⟨[], [], "/favicon.ico".toList⟩
  else if server = "static".toList then ⟨[], [], port⟩
  else ⟨server, port, orEmpty (field fields 3)⟩

/-- `/^ec2|^10|\.internal$|\.amazonaws.com$|^localhost$/`. -/
def serverPatterns : List Pattern :=
  [⟨true, literal "ec2".toList, false⟩, ⟨true, literal "10".toList, false⟩, internalPattern,
    amazonPattern, localhostPattern]

/-- The check a server and a port have to pass. -/
def isAccepted (server port : Text) : Bool :=
  matchesAny serverPatterns server && !isBelowThousand port

/-- The URI the filter gives a request for a path and a query. -/
def rewrittenUri (defaultUrl path : Text) (query : Option Text) : Text :=
  let fields := pathFields path
  let server := if isAccepted fields.server fields.port then fields.server else []
  let rest := fields.rest ++ queryText (trueQuery query)
  if server = [] then defaultUrl ++ rest
  else if fields.port = "80".toList then httpPrefix ++ server ++ '/' :: rest
  else httpPrefix ++ server ++ ':' :: fields.port ++ '/' :: rest

/-- `RewriteRequests::filter`, with the URI it puts in the stash as `orig_uri`. -/
def filter (lib : UriLibrary) (defaultUrl : Text) (message : Message) : Text × Message :=
  (message.uri,
    { uri := rewrittenUri defaultUrl (lib.path message.uri) (lib.query message.uri)
      headers := fun name ↦
        if name ∈ ["host".toList, "if-modified-since".toList] then none
        else message.headers name })

/-! ### The fields of a path -/

/-- No server is accepted without a name, and none with port 80 or without a port. -/
theorem not_isAccepted_nil (port : Text) : isAccepted [] port = false := by
  have hnone : matchesAny serverPatterns [] = false := by decide
  rw [isAccepted, hnone, Bool.false_and]

theorem not_isAccepted_http (server : Text) : isAccepted server "80".toList = false := by
  have hbelow : isBelowThousand "80".toList = true := by decide +kernel
  rw [isAccepted, hbelow, Bool.not_true, Bool.and_false]

theorem not_isAccepted_no_port (server : Text) : isAccepted server [] = false := by
  have hbelow : isBelowThousand [] = true := by decide +kernel
  rw [isAccepted, hbelow, Bool.not_true, Bool.and_false]

/-- The characters of the fields are characters of a path. -/
theorem isPathChar_of_mem_field {path : Text} (hpath : ∀ c ∈ path, isPathChar c = true)
    {place : ℕ} {c : Char} (hc : c ∈ field (split '/' path 4) place) : isPathChar c = true := by
  rw [split] at hc
  split_ifs at hc with hempty
  · simp [field] at hc
  · exact hpath c (mem_of_mem_field hc)

/-- The server and the port have no slash. -/
theorem slash_not_mem_field {path : Text} {place : ℕ} (hplace : place < 3) :
    '/' ∉ field (split '/' path 4) place := by
  rw [split]
  split_ifs with hempty
  · simp [field]
  · exact separator_not_mem_field hplace

/-- A path character other than a slash belongs in an authority. -/
theorem isUric_of_isPathChar {c : Char} (hc : isPathChar c = true) (hslash : c ≠ '/') :
    isUric c = true ∧ isDelimiter c = false := by
  simp only [isPathChar, Bool.and_eq_true, decide_eq_true_eq] at hc
  have hnumber : c ≠ '#' := by
    rintro rfl
    exact absurd hc.1 (by decide)
  exact ⟨hc.1, by simp [isDelimiter, hslash, hc.2, hnumber]⟩

variable {path : Text}

theorem pathFields_server_chars (hpath : ∀ c ∈ path, isPathChar c = true) :
    ∀ c ∈ (pathFields path).server, isUric c = true ∧ isDelimiter c = false := by
  intro c hc
  simp only [pathFields] at hc
  split_ifs at hc
  · simp at hc
  · simp at hc
  · exact isUric_of_isPathChar (isPathChar_of_mem_field hpath hc)
      (ne_of_mem_of_not_mem hc (slash_not_mem_field (by omega)))

theorem pathFields_port_chars (hpath : ∀ c ∈ path, isPathChar c = true) :
    ∀ c ∈ (pathFields path).port, isUric c = true ∧ isDelimiter c = false := by
  intro c hc
  simp only [pathFields] at hc
  split_ifs at hc
  · simp at hc
  · simp at hc
  · exact isUric_of_isPathChar (isPathChar_of_mem_field hpath hc)
      (ne_of_mem_of_not_mem hc (slash_not_mem_field (by omega)))

theorem pathFields_rest_chars (hpath : ∀ c ∈ path, isPathChar c = true) :
    ∀ c ∈ (pathFields path).rest, isPathChar c = true := by
  intro c hc
  simp only [pathFields] at hc
  split_ifs at hc
  · have hall : ∀ d ∈ "/favicon.ico".toList, isPathChar d = true := by decide
    exact hall c hc
  · exact isPathChar_of_mem_field hpath hc
  · rcases orEmpty_cases (field (split '/' path 4) 3) with hsame | hempty
    · exact isPathChar_of_mem_field hpath (hsame ▸ hc)
    · simp [hempty] at hc

/-! ### The URI of a rewritten request -/

/-- A default URL of the form `http://host:port`. -/
structure DefaultUrl where
  host : Text
  port : Text
  host_chars : ∀ c ∈ host, (isUric c = true ∧ isDelimiter c = false) ∧ c ≠ '@' ∧ c ≠ '%'
  port_digits : ∀ c ∈ port, c.isDigit = true
  port_some : port ≠ []

namespace DefaultUrl

/-- The authority of a default URL. -/
def authority (default : DefaultUrl) : Text := default.host ++ ':' :: default.port

/-- The text of a default URL. -/
def text (default : DefaultUrl) : Text := httpPrefix ++ default.authority

/-- What a default URL names. -/
def server (default : DefaultUrl) : HostPort := ⟨hostText default.host, default.port⟩

theorem authority_chars (default : DefaultUrl) :
    ∀ c ∈ default.authority, (isUric c = true ∧ isDelimiter c = false) ∧ c ≠ '%' := by
  intro c hc
  rw [authority, List.mem_append, List.mem_cons] at hc
  rcases hc with hhost | rfl | hport
  · exact ⟨(default.host_chars c hhost).1, (default.host_chars c hhost).2.2⟩
  · decide
  · have hdigit := default.port_digits c hport
    refine ⟨⟨isUric_of_isDigit hdigit, not_isDelimiter_of_isDigit hdigit⟩, ?_⟩
    rintro rfl
    exact absurd hdigit (by decide)

/-- The default URL as a URI. -/
def toUri (default : DefaultUrl) : HttpUri where
  scheme := "http".toList
  authority := default.authority
  path := []
  query := none
  fragment := none
  scheme_http := by decide
  authority_chars c hc := (default.authority_chars c hc).1
  path_chars := by simp
  path_rooted := .inl rfl
  query_chars := by simp
  fragment_chars := by simp

theorem text_toUri (default : DefaultUrl) : default.toUri.text = default.text := by
  rw [HttpUri.text, text]
  simp only [toUri, queryText, fragmentText, List.append_nil, http_append]

theorem readAuthority_authority (default : DefaultUrl) :
    readAuthority default.authority = default.server := by
  rw [authority, readAuthority_of_digits _ default.port_digits default.port_some,
    afterLast_of_not_mem fun hat ↦ (default.host_chars '@' hat).2.1 rfl, server]

end DefaultUrl

/-- What stands before the first slash. -/
def firstSegment (t : Text) : Text := t.takeWhile fun c ↦ c ≠ '/'

/-- The first slash and what follows it. -/
def afterSegment (t : Text) : Text := t.dropWhile fun c ↦ c ≠ '/'

/-- The authority of a rewritten request: the accepted server and port, or the default URL's
followed by the first segment of the rest. -/
def targetAuthority (default : DefaultUrl) (fields : PathFields) : Text :=
  if isAccepted fields.server fields.port then fields.server ++ ':' :: fields.port
  else default.authority ++ firstSegment fields.rest

/-- The path of a rewritten request. -/
def targetPath (fields : PathFields) : Text :=
  if isAccepted fields.server fields.port then '/' :: fields.rest else afterSegment fields.rest

/-- The URI of a rewritten request. -/
def targetUri (default : DefaultUrl) (request : HttpUri) : HttpUri where
  scheme := "http".toList
  authority := targetAuthority default (pathFields request.path)
  path := targetPath (pathFields request.path)
  query := trueQuery request.query
  fragment := none
  scheme_http := by decide
  authority_chars := by
    intro c hc
    rw [targetAuthority] at hc
    split_ifs at hc
    · rw [List.mem_append, List.mem_cons] at hc
      rcases hc with hserver | rfl | hport
      · exact pathFields_server_chars request.path_chars c hserver
      · decide
      · exact pathFields_port_chars request.path_chars c hport
    · rw [List.mem_append] at hc
      rcases hc with hdefault | hsegment
      · exact (default.authority_chars c hdefault).1
      · have hrest := List.mem_takeWhile_imp hsegment
        have hmem := List.takeWhile_sublist _ |>.subset hsegment
        exact isUric_of_isPathChar (pathFields_rest_chars request.path_chars c hmem)
          (by simpa using hrest)
  path_chars := by
    intro c hc
    rw [targetPath] at hc
    split_ifs at hc
    · rw [List.mem_cons] at hc
      rcases hc with rfl | hrest
      · decide
      · exact pathFields_rest_chars request.path_chars c hrest
    · exact pathFields_rest_chars request.path_chars c ((List.dropWhile_sublist _).subset hc)
  path_rooted := by
    rw [targetPath]
    split_ifs
    · exact .inr ⟨_, rfl⟩
    · cases hafter : afterSegment (pathFields request.path).rest with
      | nil => exact .inl rfl
      | cons c rest =>
        have hhead := List.head?_dropWhile_not (fun c ↦ decide (c ≠ '/'))
          (pathFields request.path).rest
        rw [afterSegment] at hafter
        rw [hafter] at hhead
        exact .inr ⟨rest, by simpa using hhead⟩
  query_chars := by
    intro text htext
    exact request.query_chars text (Option.filter_eq_some_iff.mp htext).1
  fragment_chars := by simp

/-- The filter writes the text of the target. -/
theorem text_targetUri (default : DefaultUrl) (request : HttpUri) :
    (targetUri default request).text = rewrittenUri default.text request.path request.query := by
  have htext : (targetUri default request).text =
      httpPrefix ++ targetAuthority default (pathFields request.path) ++
        targetPath (pathFields request.path) ++ queryText (trueQuery request.query) := by
    rw [HttpUri.text]
    simp only [targetUri, fragmentText, List.append_nil, http_append]
  rw [htext, targetAuthority, targetPath, rewrittenUri]
  by_cases haccepted :
      isAccepted (pathFields request.path).server (pathFields request.path).port = true
  · have hserver : (pathFields request.path).server ≠ [] := by
      intro hempty
      rw [hempty, not_isAccepted_nil] at haccepted
      cases haccepted
    have hport : (pathFields request.path).port ≠ "80".toList := by
      intro hhttp
      rw [hhttp, not_isAccepted_http] at haccepted
      cases haccepted
    simp only [if_pos haccepted, if_neg hserver, if_neg hport, List.append_assoc,
      List.cons_append]
  · have hrest : firstSegment (pathFields request.path).rest ++
        afterSegment (pathFields request.path).rest = (pathFields request.path).rest :=
      List.takeWhile_append_dropWhile
    simp only [if_neg haccepted, if_true, DefaultUrl.text, List.append_assoc]
    rw [← List.append_assoc (firstSegment _), hrest]

/-- The filter gives a request the text of its target. -/
theorem uri_filter {lib : UriLibrary} (hlib : ReadsHttp lib) (default : DefaultUrl)
    (request : HttpUri) (headers : Headers) :
    (filter lib default.text ⟨request.text, headers⟩).2.uri = (targetUri default request).text := by
  rw [text_targetUri, filter, hlib.path, hlib.query]

/-! ### A proxy in front of a Hadoop master -/

/-- The page of the Hadoop master, the default URL of `emr-proxy-into`. -/
def masterUrl : DefaultUrl where
  host := "localhost".toList
  port := "50030".toList
  host_chars := by decide
  port_digits := by decide
  port_some := by decide

/-- The start page of a proxy on its default port. -/
def startPage : HttpUri where
  scheme := "http".toList
  authority := "localhost:8888".toList
  path := "/".toList
  query := none
  fragment := none
  scheme_http := by decide
  authority_chars := by decide
  path_chars := by decide
  path_rooted := .inr ⟨[], rfl⟩
  query_chars := by simp
  fragment_chars := by simp

/-- A page of a task on a master. -/
def taskPage : HttpUri where
  scheme := "http".toList
  authority := "localhost:50060".toList
  path := "/tasklog".toList
  query := some "attempt=1".toList
  fragment := none
  scheme_http := by decide
  authority_chars := by decide
  path_chars := by decide
  path_rooted := .inr ⟨_, rfl⟩
  query_chars := by decide
  fragment_chars := by simp

/-- A page of a web server on an instance. -/
def instancePage : HttpUri where
  scheme := "http".toList
  authority := "ec2-1.amazonaws.com".toList
  path := "/index.html".toList
  query := none
  fragment := none
  scheme_http := by decide
  authority_chars := by decide
  path_chars := by decide
  path_rooted := .inr ⟨_, rfl⟩
  query_chars := by simp
  fragment_chars := by simp

end Ec2Wrappers.Microproxy
