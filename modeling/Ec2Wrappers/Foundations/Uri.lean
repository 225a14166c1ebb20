import Ec2Wrappers.Foundations.PercentEncoding

/-!
# http URIs

An absolute http URI is its authority, path, query and fragment (`HttpUri`). The authority is read
as the user information up to its last `@`, a host, and a port after the last colon when only digits
follow; without digits the port is 80. The host is percent-decoded, and brackets around it are
dropped (`readAuthority`).

A program that works on URIs as texts goes through a library. `UriLibrary` are the operations it
uses and `ReadsHttp` says that the library reads the text of an http URI as its components.
`genericSyntax` is the library that cuts a text at its first delimiters, and it reads http URIs so
(`readsHttp_genericSyntax`).
-/

set_option autoImplicit false
set_option relaxedAutoImplicit false

namespace Ec2Wrappers.Foundations

/-! ### Characters -/

/-- The characters of a URI without its fragment. -/
def isUric (c : Char) : Bool := c.isAlphanum || c ∈ ";/?:@&=+$,[]-_.!~*'()%".toList

/-- The characters of a path. -/
def isPathChar (c : Char) : Bool := isUric c && c ≠ '?'

/-- The characters that end an authority. -/
def isDelimiter (c : Char) : Bool := c = '/' || c = '?' || c = '#'

/-- The letters and the digits are three ranges. -/
theorem isAlphanum_iff (c : Char) : c.isAlphanum = true ↔
    (('A' ≤ c ∧ c ≤ 'Z') ∨ ('a' ≤ c ∧ c ≤ 'z')) ∨ ('0' ≤ c ∧ c ≤ '9') := by
  change ((decide ('A' ≤ c ∧ c ≤ 'Z') || (decide ('a' ≤ c) && decide (c ≤ 'z'))) ||
    (decide ('0' ≤ c) && decide (c ≤ '9'))) = true ↔ _
  simp only [Bool.or_eq_true, Bool.and_eq_true, decide_eq_true_eq]

theorem isAlphanum_of_hexValue {c : Char} (hc : (hexValue c).isSome) : c.isAlphanum = true := by
  have hF : 'F' ≤ 'Z' := by decide
  have hf : 'f' ≤ 'z' := by decide
  rw [hexValue] at hc
  rw [isAlphanum_iff]
  split_ifs at hc with hdigit hupper hlower
  · exact .inr hdigit
  · exact .inl (.inl ⟨hupper.1, Char.le_trans hupper.2 hF⟩)
  · exact .inl (.inr ⟨hlower.1, Char.le_trans hlower.2 hf⟩)
  · cases hc

theorem keepsEscapes_isUric : KeepsEscapes isUric where
  percent := by decide
  digit c hc := by simp [isUric, isAlphanum_of_hexValue hc]

theorem keepsEscapes_isPathChar : KeepsEscapes isPathChar where
  percent := by decide
  digit c hc := by
    have hquestion : c ≠ '?' := by
      rintro rfl
      exact absurd hc (by decide)
    simp [isPathChar, isUric, isAlphanum_of_hexValue hc, hquestion]

theorem isUric_of_isDigit {c : Char} (hc : c.isDigit = true) : isUric c = true := by
  simp [isUric, Char.isAlphanum, hc]

theorem isPathChar_of_isDigit {c : Char} (hc : c.isDigit = true) : isPathChar c = true := by
  have hquestion : c ≠ '?' := by
    rintro rfl
    exact absurd hc (by decide)
  simp [isPathChar, isUric_of_isDigit hc, hquestion]

theorem not_isDelimiter_of_isDigit {c : Char} (hc : c.isDigit = true) : isDelimiter c = false := by
  simp only [isDelimiter, Bool.or_eq_false_iff, decide_eq_false_iff_not]
  refine ⟨⟨?_, ?_⟩, ?_⟩
  all_goals
    rintro rfl
    exact absurd hc (by decide)

theorem lt_of_isUric {c : Char} (hc : isUric c = true) : c.toNat < 256 := by
  simp only [isUric, Bool.or_eq_true, decide_eq_true_eq] at hc
  rcases hc with halnum | hmark
  · have hbelow (d : Char) (hd : d ≤ 'z') : d.toNat < 256 :=
      lt_of_le_of_lt (UInt32.le_iff_toNat_le.mp hd) (by decide)
    have hZ : 'Z' ≤ 'z' := by decide
    have hnine : '9' ≤ 'z' := by decide
    rcases (isAlphanum_iff c).mp halnum with (hupper | hlower) | hdigit
    · exact hbelow c (Char.le_trans hupper.2 hZ)
    · exact hbelow c hlower.2
    · exact hbelow c (Char.le_trans hdigit.2 hnine)
  · have hall : ∀ d ∈ ";/?:@&=+$,[]-_.!~*'()%".toList, d.toNat < 256 := by decide
    exact hall c hmark

/-! ### The authority -/

/-- The text without the brackets around it. -/
def stripBrackets : Text → Text
  | '[' :: t => if t.getLast? = some ']' then t.dropLast else '[' :: t
  | t => t

/-- The host that the host part of an authority names. -/
def hostText (t : Text) : Text := unescape (stripBrackets t)

/-- A host and a port. -/
structure HostPort where
  host : Text
  port : Text
  deriving DecidableEq, Repr

/-- The port of http. -/
def defaultPort : Text := "80".toList

/-- The host and the port an authority names. -/
def readAuthority (authority : Text) : HostPort :=
  let server := afterLast '@' authority
  let digits := server.rtakeWhile Char.isDigit
  let before := server.rdropWhile Char.isDigit
  if before.getLast? = some ':' then
    ⟨hostText before.dropLast, if digits = [] then defaultPort else digits⟩
  else ⟨hostText server, defaultPort⟩

/-- Brackets around the text are dropped, and any other text stays. -/
theorem stripBrackets_cases (t : Text) :
    stripBrackets t = t ∨ t = '[' :: (stripBrackets t ++ [']']) := by
  match t with
  | [] => exact .inl rfl
  | c :: t =>
    by_cases hopen : c = '['
    · subst hopen
      rw [stripBrackets]
      split_ifs with hclose
      · have hlast : t.dropLast ++ [']'] = t := List.dropLast_append_getLast? _ hclose
        exact .inr (by rw [hlast])
      · exact .inl rfl
    · refine .inl ?_
      rw [stripBrackets]
      exact fun t' hcons ↦ hopen (List.cons.inj hcons).1

/-- The host is a piece of the unescaped host part. -/
theorem hostText_isInfix (t : Text) : hostText t <:+: unescape t := by
  rcases stripBrackets_cases t with hsame | hbrackets
  · rw [hostText, hsame]
  · have hshape : unescape t = ['['] ++ hostText t ++ [']'] := by
      conv_lhs => rw [hbrackets]
      rw [unescape_cons (by decide), unescape_append_cons (by decide) (by decide)]
      rfl
    exact ⟨['['], [']'], hshape.symm⟩

/-- An authority names its host part, up to a colon that only digits follow. -/
theorem readAuthority_cases (authority : Text) :
    (∃ host digits, afterLast '@' authority = host ++ ':' :: digits ∧
      (∀ c ∈ digits, c.isDigit = true) ∧
      readAuthority authority =
        ⟨hostText host, if digits = [] then defaultPort else digits⟩) ∨
      readAuthority authority = ⟨hostText (afterLast '@' authority), defaultPort⟩ := by
  by_cases hcolon : ((afterLast '@' authority).rdropWhile Char.isDigit).getLast? = some ':'
  · refine .inl ⟨_, _, ?_, fun c hc ↦ List.mem_rtakeWhile_imp hc,
      by rw [readAuthority, if_pos hcolon]⟩
    rw [← List.singleton_append, ← List.append_assoc, List.dropLast_append_getLast? _ hcolon,
      List.rdropWhile_append_rtakeWhile]
  · exact .inr (by rw [readAuthority, if_neg hcolon])

/-- The digits after a colon at the end are the port. -/
theorem readAuthority_of_digits (server : Text) {digits : Text}
    (hdigits : ∀ c ∈ digits, c.isDigit = true) (hsome : digits ≠ []) :
    readAuthority (server ++ ':' :: digits) = ⟨hostText (afterLast '@' server), digits⟩ := by
  have hat : '@' ∉ ':' :: digits := by
    rw [List.mem_cons, not_or]
    exact ⟨by decide, fun hmem ↦ absurd (hdigits '@' hmem) (by decide)⟩
  rw [readAuthority, afterLast_append hat, rdropWhile_at_failure _ hdigits (by decide),
    rtakeWhile_at_failure _ hdigits (by decide), if_pos (by simp), if_neg hsome,
    List.dropLast_concat]

/-- User information is not read. -/
theorem readAuthority_append (user : Text) {server : Text} (hat : '@' ∈ server) :
    readAuthority (user ++ server) = readAuthority server := by
  rw [readAuthority, readAuthority, afterLast_append_of_mem user hat]

/-- The host is a piece of the unescaped authority. -/
theorem host_isInfix (authority : Text) :
    (readAuthority authority).host <:+: unescape authority := by
  have hserver : unescape (afterLast '@' authority) <:+: unescape authority := by
    rcases afterLast_cases '@' authority with ⟨-, hsame⟩ | ⟨-, before, hsplit⟩
    · rw [hsame]
    · have hshape : unescape authority =
          (unescape before ++ ['@']) ++ unescape (afterLast '@' authority) := by
        conv_lhs => rw [hsplit]
        rw [unescape_append_cons (by decide) (by decide), List.append_assoc, List.singleton_append]
      exact ⟨unescape before ++ ['@'], [], by rw [hshape, List.append_nil]⟩
  refine List.IsInfix.trans ?_ hserver
  rcases readAuthority_cases authority with ⟨host, digits, hsplit, -, hread⟩ | hread
  · rw [hread, hsplit, unescape_append_cons (by decide) (by decide)]
    exact (hostText_isInfix host).trans (List.prefix_append _ _).isInfix
  · rw [hread]
    exact hostText_isInfix _

theorem length_host_le (authority : Text) :
    (readAuthority authority).host.length ≤ (unescape authority).length :=
  (host_isInfix authority).length_le

/-- The port is a text of digits. -/
theorem isDigit_of_mem_port {authority : Text} {c : Char}
    (hc : c ∈ (readAuthority authority).port) : c.isDigit = true := by
  have hdefault : ∀ c ∈ defaultPort, c.isDigit = true := by decide
  rcases readAuthority_cases authority with ⟨host, digits, -, hdigits, hread⟩ | hread
  · rw [hread] at hc
    split_ifs at hc with hempty
    · exact hdefault c hc
    · exact hdigits c hc
  · rw [hread] at hc
    exact hdefault c hc

theorem port_ne_nil (authority : Text) : (readAuthority authority).port ≠ [] := by
  have hdefault : defaultPort ≠ [] := by decide
  rcases readAuthority_cases authority with ⟨host, digits, -, hdigits, hread⟩ | hread
  · rw [hread]
    split_ifs with hempty
    · exact hdefault
    · exact hempty
  · rw [hread]
    exact hdefault

/-- A kept mark that cannot stand in an escape ends an escaped text when it ends the text. -/
theorem getLast?_escape_iff {keep : Char → Bool} {mark : Char} (hkept : keep mark = true)
    (hpercent : mark ≠ '%') (hhex : hexValue mark = none) (t : Text) :
    (escape keep t).getLast? = some mark ↔ t.getLast? = some mark := by
  rcases List.eq_nil_or_concat t with rfl | ⟨t, c, rfl⟩
  · simp
  · rw [List.concat_eq_append, escape_append, List.getLast?_concat, Option.some.injEq]
    cases hc : keep c with
    | true => rw [escape_cons_kept hc, escape_nil, List.getLast?_concat, Option.some.injEq]
    | false =>
      obtain ⟨rest, hescape⟩ := escapeChar_eq_cons c
      have hne : c ≠ mark := by
        rintro rfl
        exact Bool.noConfusion (hc.symm.trans hkept)
      rw [escape_cons_escaped hc, escape_nil, List.append_nil]
      refine iff_of_false (fun hlast ↦ ?_) hne
      rw [List.getLast?_append_of_ne_nil _ (by simp [hescape])] at hlast
      rcases mem_escapeChar (List.mem_of_getLast? hlast) with hsign | hdigit
      · exact hpercent hsign
      · simp [hhex] at hdigit

/-- Brackets are dropped before or after the text is escaped. -/
theorem stripBrackets_escape (t : Text) :
    stripBrackets (escape isPathChar t) = escape isPathChar (stripBrackets t) := by
  have hother {c : Char} (hc : c ≠ '[') (t : Text) : stripBrackets (c :: t) = c :: t := by
    rw [stripBrackets]
    exact fun t' hcons ↦ hc (List.cons.inj hcons).1
  match t with
  | [] => rfl
  | c :: t =>
    by_cases hopen : c = '['
    · subst hopen
      rw [escape_cons_kept (by decide), stripBrackets, stripBrackets]
      by_cases hclose : t.getLast? = some ']'
      · have hescaped : (escape isPathChar t).getLast? = some ']' :=
          (getLast?_escape_iff (by decide) (by decide) (by decide) t).mpr hclose
        have hlast : escape isPathChar t = escape isPathChar t.dropLast ++ [']'] := by
          conv_lhs => rw [← List.dropLast_append_getLast? _ hclose]
          rw [escape_append, escape_cons_kept (by decide), escape_nil]
        rw [if_pos hescaped, if_pos hclose, hlast, List.dropLast_concat]
      · have hescaped : ¬ (escape isPathChar t).getLast? = some ']' :=
          fun hlast ↦ hclose
            ((getLast?_escape_iff (by decide) (by decide) (by decide) t).mp hlast)
        rw [if_neg hescaped, if_neg hclose, escape_cons_kept (by decide)]
    · rw [hother hopen]
      cases hc : isPathChar c with
      | true => rw [escape_cons_kept hc, hother hopen]
      | false =>
        obtain ⟨rest, hescape⟩ := escapeChar_eq_cons c
        rw [escape_cons_escaped hc, hescape, List.cons_append, hother (by decide)]

/-- A text of bytes names the same host once it is escaped. -/
theorem hostText_escape {t : Text} (hbytes : ∀ c ∈ t, c.toNat < 256) :
    hostText (escape isPathChar t) = hostText t := by
  have hstripped : ∀ c ∈ stripBrackets t, c.toNat < 256 := by
    intro c hc
    rcases stripBrackets_cases t with hsame | hbrackets
    · exact hbytes c (hsame ▸ hc)
    · exact hbytes c (by rw [hbrackets]; simp [hc])
  rw [hostText, stripBrackets_escape, unescape_escape keepsEscapes_isPathChar hstripped, hostText]

/-! ### URIs -/

/-- A query with its question mark, or nothing. -/
def queryText : Option Text → Text
  | none => []
  | some query => '?' :: query

/-- A fragment with its number sign, or nothing. -/
def fragmentText : Option Text → Text
  | none => []
  | some fragment => '#' :: fragment

/-- An absolute http URI. -/
structure HttpUri where
  scheme : Text
  authority : Text
  path : Text
  query : Option Text
  fragment : Option Text
  scheme_http : scheme.map Char.toLower = "http".toList
  authority_chars : ∀ c ∈ authority, isUric c = true ∧ isDelimiter c = false
  path_chars : ∀ c ∈ path, isPathChar c = true
  path_rooted : path = [] ∨ ∃ rest, path = '/' :: rest
  query_chars : ∀ text ∈ query, ∀ c ∈ text, isUric c = true
  fragment_chars : ∀ text ∈ fragment, ∀ c ∈ text, isUric c = true

namespace HttpUri

/-- The URI as a text. -/
def text (uri : HttpUri) : Text :=
  uri.scheme ++ "://".toList ++ uri.authority ++ uri.path ++ queryText uri.query ++
    fragmentText uri.fragment

/-- The host of the URI. -/
def host (uri : HttpUri) : Text := (readAuthority uri.authority).host

/-- The port of the URI. -/
def port (uri : HttpUri) : Text := (readAuthority uri.authority).port

theorem lt_of_mem_host (uri : HttpUri) {c : Char} (hc : c ∈ uri.host) : c.toNat < 256 :=
  lt_of_mem_unescape (fun d hd ↦ lt_of_isUric (uri.authority_chars d hd).1)
    ((host_isInfix uri.authority).subset hc)

end HttpUri

/-- A path with the root for the empty path. -/
def rootPath (path : Text) : Text := if path = [] then ['/'] else path

/-- The operations of a library on URIs as texts. -/
structure UriLibrary where
  scheme : Text → Option Text
  host : Text → Text
  port : Text → Text
  path : Text → Text
  query : Text → Option Text
  newAbs : Text → Text → Text

/-- The library reads the text of an http URI as its components, and an http URI relative to any
base is itself. -/
structure ReadsHttp (lib : UriLibrary) : Prop where
  scheme : ∀ uri : HttpUri, lib.scheme uri.text = some "http".toList
  host : ∀ uri : HttpUri, lib.host uri.text = uri.host
  port : ∀ uri : HttpUri, lib.port uri.text = uri.port
  path : ∀ uri : HttpUri, lib.path uri.text = uri.path
  query : ∀ uri : HttpUri, lib.query uri.text = uri.query
  newAbs : ∀ (uri : HttpUri) (base : Text), lib.newAbs uri.text base = uri.text

/-! ### The generic syntax -/

/-- The scheme, up to the first colon unless a delimiter comes before it, and the rest. -/
def cutScheme (t : Text) : Option Text × Text :=
  match t.dropWhile fun c ↦ c ≠ ':' && !isDelimiter c with
  | ':' :: rest => (some ((t.takeWhile fun c ↦ c ≠ ':' && !isDelimiter c).map Char.toLower), rest)
  | _ => (none, t)

/-- The authority between two slashes and the next delimiter, and the rest. -/
def cutAuthority (t : Text) : Text × Text :=
  match (cutScheme t).2 with
  | '/' :: '/' :: rest =>
    (rest.takeWhile fun c ↦ !isDelimiter c, rest.dropWhile fun c ↦ !isDelimiter c)
  | rest => ([], rest)

/-- The path, up to the query or the fragment. -/
def pathPart (t : Text) : Text := t.takeWhile fun c ↦ c ≠ '?' && c ≠ '#'

/-- The query, from the first question mark to the fragment. -/
def queryPart (t : Text) : Option Text :=
  match t.dropWhile fun c ↦ c ≠ '?' && c ≠ '#' with
  | '?' :: rest => some (rest.takeWhile fun c ↦ c ≠ '#')
  | _ => none

/-- The library that cuts a text at its first delimiters. A reference without a scheme takes the
scheme of the base, then its authority, then its path up to the last slash. -/
def genericSyntax : UriLibrary where
  scheme t := (cutScheme t).1
  host t := (readAuthority (cutAuthority t).1).host
  port t := (readAuthority (cutAuthority t).1).port
  path t := pathPart (cutAuthority t).2
  query t := queryPart (cutAuthority t).2
  newAbs reference base :=
    if (cutScheme reference).1.isSome then reference
    else
      let scheme := (cutScheme base).1.getD [] ++ [':']
      let origin := scheme ++ "//".toList ++ (cutAuthority base).1
      let directory := (pathPart (cutAuthority base).2).rdropWhile fun c ↦ c ≠ '/'
      if "//".toList.isPrefixOf reference then scheme ++ reference
      else if "/".toList.isPrefixOf reference then origin ++ reference
      else origin ++ directory ++ reference

/-- What follows the authority is empty or starts with a delimiter. -/
theorem HttpUri.stop_after_authority (uri : HttpUri) :
    ∀ c ∈ (uri.path ++ queryText uri.query ++ fragmentText uri.fragment).head?,
      isDelimiter c = true := by
  intro c hc
  rcases uri.path_rooted with hpath | ⟨rest, hpath⟩
  · cases hquery : uri.query with
    | some query =>
      simp only [hpath, hquery, queryText, List.nil_append, List.cons_append, List.head?_cons,
        Option.mem_some_iff] at hc
      exact hc ▸ rfl
    | none =>
      cases hfragment : uri.fragment with
      | some fragment =>
        simp only [hpath, hquery, hfragment, queryText, fragmentText, List.nil_append,
          List.head?_cons, Option.mem_some_iff] at hc
        exact hc ▸ rfl
      | none => simp [hpath, hquery, hfragment, queryText, fragmentText] at hc
  · simp only [hpath, List.cons_append, List.head?_cons, Option.mem_some_iff] at hc
    exact hc ▸ rfl

/-- A query or a fragment ends the path in front of it. -/
theorem stop_at_query (query fragment : Option Text) :
    ∀ c ∈ (queryText query ++ fragmentText fragment).head?, (c ≠ '?' && c ≠ '#') = false := by
  intro c hc
  cases query with
  | some query =>
    simp only [queryText, List.cons_append, List.head?_cons, Option.mem_some_iff] at hc
    exact hc ▸ rfl
  | none =>
    cases fragment with
    | some fragment =>
      simp only [queryText, fragmentText, List.nil_append, List.head?_cons,
        Option.mem_some_iff] at hc
      exact hc ▸ rfl
    | none => simp [queryText, fragmentText] at hc

theorem pathPart_append {path : Text} (hpath : ∀ c ∈ path, (c ≠ '?' && c ≠ '#') = true)
    (query fragment : Option Text) :
    pathPart (path ++ (queryText query ++ fragmentText fragment)) = path :=
  takeWhile_append_stop hpath (stop_at_query query fragment)

theorem queryPart_append {path : Text} (hpath : ∀ c ∈ path, (c ≠ '?' && c ≠ '#') = true)
    {query : Option Text} (hquery : ∀ text ∈ query, ∀ c ∈ text, isUric c = true)
    (fragment : Option Text) :
    queryPart (path ++ (queryText query ++ fragmentText fragment)) = query := by
  rw [queryPart, dropWhile_append_stop hpath (stop_at_query query fragment)]
  cases query with
  | none => cases fragment <;> rfl
  | some text =>
    have hkept : ∀ c ∈ text, decide (c ≠ '#') = true := by
      intro c hc
      rw [decide_eq_true_eq]
      rintro rfl
      exact absurd (hquery text rfl '#' hc) (by decide)
    have hstop : ∀ c ∈ (fragmentText fragment).head?, decide (c ≠ '#') = false := by
      intro c hc
      cases fragment with
      | none => simp [fragmentText] at hc
      | some fragment =>
        simp only [fragmentText, List.head?_cons, Option.mem_some_iff] at hc
        exact hc ▸ rfl
    rw [queryText, List.cons_append]
    change some (List.takeWhile _ _) = _
    rw [takeWhile_append_stop hkept hstop]

theorem cutScheme_text (uri : HttpUri) :
    cutScheme uri.text = (some "http".toList, '/' :: '/' :: (uri.authority ++
      (uri.path ++ queryText uri.query ++ fragmentText uri.fragment))) := by
  have hscheme : ∀ c ∈ uri.scheme, (c ≠ ':' && !isDelimiter c) = true := by
    intro c hc
    have hlower : c.toLower ∈ "http".toList := by
      rw [← uri.scheme_http]
      exact List.mem_map_of_mem hc
    have hcolon : c ≠ ':' := by
      rintro rfl
      exact absurd hlower (by decide)
    have hdelimiter : isDelimiter c = false := by
      simp only [isDelimiter, Bool.or_eq_false_iff, decide_eq_false_iff_not]
      refine ⟨⟨?_, ?_⟩, ?_⟩
      all_goals
        rintro rfl
        exact absurd hlower (by decide)
    simp [hcolon, hdelimiter]
  have hshape : uri.text = uri.scheme ++ ':' :: '/' :: '/' :: (uri.authority ++
      (uri.path ++ queryText uri.query ++ fragmentText uri.fragment)) := by
    simp [HttpUri.text]
  rw [hshape, cutScheme, dropWhile_at_failure hscheme (by decide),
    takeWhile_at_failure hscheme (by decide), uri.scheme_http]
  rfl

theorem cutAuthority_text (uri : HttpUri) :
    cutAuthority uri.text =
      (uri.authority, uri.path ++ queryText uri.query ++ fragmentText uri.fragment) := by
  have hauthority : ∀ c ∈ uri.authority, (!isDelimiter c) = true := by
    intro c hc
    simp [(uri.authority_chars c hc).2]
  have hstop : ∀ c ∈ (uri.path ++ queryText uri.query ++ fragmentText uri.fragment).head?,
      (!isDelimiter c) = false := by
    intro c hc
    simp [uri.stop_after_authority c hc]
  rw [cutAuthority, cutScheme_text]
  change (List.takeWhile _ _, List.dropWhile _ _) = _
  rw [takeWhile_append_stop hauthority hstop, dropWhile_append_stop hauthority hstop]

theorem not_mark_of_isPathChar {c : Char} (hc : isPathChar c = true) :
    (c ≠ '?' && c ≠ '#') = true := by
  have hquestion : c ≠ '?' := by
    rintro rfl
    exact absurd hc (by decide)
  have hnumber : c ≠ '#' := by
    rintro rfl
    exact absurd hc (by decide)
  simp [hquestion, hnumber]

theorem not_mark_of_not_isDelimiter {c : Char} (hc : isDelimiter c = false) :
    (c ≠ '?' && c ≠ '#') = true := by
  simp only [isDelimiter, Bool.or_eq_false_iff, decide_eq_false_iff_not] at hc
  simp [hc.1.2, hc.2]

/-- Cutting at the first delimiters reads an http URI as its components. -/
theorem readsHttp_genericSyntax : ReadsHttp genericSyntax where
  scheme uri := by
    change (cutScheme uri.text).1 = _
    rw [cutScheme_text]
  host uri := by
    change (readAuthority (cutAuthority uri.text).1).host = _
    rw [cutAuthority_text, HttpUri.host]
  port uri := by
    change (readAuthority (cutAuthority uri.text).1).port = _
    rw [cutAuthority_text, HttpUri.port]
  path uri := by
    change pathPart (cutAuthority uri.text).2 = _
    rw [cutAuthority_text, List.append_assoc,
      pathPart_append fun c hc ↦ not_mark_of_isPathChar (uri.path_chars c hc)]
  query uri := by
    change queryPart (cutAuthority uri.text).2 = _
    rw [cutAuthority_text, List.append_assoc,
      queryPart_append (fun c hc ↦ not_mark_of_isPathChar (uri.path_chars c hc)) uri.query_chars]
  newAbs uri base := by
    change (if (cutScheme uri.text).1.isSome then _ else _) = _
    rw [cutScheme_text]
    rfl

end Ec2Wrappers.Foundations
