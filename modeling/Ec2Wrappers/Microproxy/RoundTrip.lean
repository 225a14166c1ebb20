import Ec2Wrappers.Microproxy.SimpleProxy

/-!
# Following a rewritten link

`start_tag` and the redirect filter write the path `/host/port/path?query` for a URI, and the
request filter reads it back. Both writers produce the same path (`rewrites_iff`). The reader has
patterns of its own, wants a port of at least 1000, and drops a rest that is `0`; the writers drop a
query that is empty or `0`, and write the host percent-decoded.

`RoundTrips` says that following a rewritten link asks for what the link named. It does exactly when
the reader accepts the server and nothing is lost on the way, or when the link is to the root of the
default URL (`roundTrips_iff`, `LinkSurvives`).

The decoded host may contain the delimiters of a URI. The request is then cut inside the host
(`linkFields_of_delimiter`), and what is read back is another host or a longer path
(`not_returns_of_delimiter`).
-/

set_option autoImplicit false
set_option relaxedAutoImplicit false

namespace Ec2Wrappers.Microproxy

open Foundations Perl

/-- `start_tag` rewrites an attribute from the URI to the link, or the redirect filter rewrites a
`Location` from the URI to the link at the proxy. -/
def Rewrites (lib : UriLibrary) (baseUri : Text) (page uri : HttpUri) (link : Text) : Prop :=
  (∃ (attrs : Attributes) (name : Text), name ∈ uriAttributes ∧ attrs name = some uri.text ∧
    startTag lib baseUri attrs name = some link) ∨
  (∃ headers : Headers, headers "location".toList = some uri.text ∧
    fixRedirects lib page.text headers "location".toList =
      some (proxyOrigin lib page.text ++ link))

/-- A URI, read by the library, has the host, the port, the path and the query of another. -/
def SameResource (lib : UriLibrary) (result : Text) (uri : HttpUri) : Prop :=
  lib.host result = uri.host ∧ number (lib.port result) = number uri.port ∧
    rootPath (lib.path result) = rootPath uri.path ∧ lib.query result = uri.query

/-- A request for a link that the URI is rewritten to is sent on to what the URI names. -/
def RoundTrips (lib : UriLibrary) (default : DefaultUrl) (page uri : HttpUri) : Prop :=
  ∀ (baseUri link : Text) (headers : Headers), Rewrites lib baseUri page uri link →
    SameResource lib
      (filter lib default.text ⟨(followLink page link).text, headers⟩).2.uri uri

/-- The query is not false; and the server is accepted, the host reads back as itself and the path
is not `/0`, or the server is not accepted and the URI is the root of the default URL. -/
def LinkSurvives (default : DefaultUrl) (uri : HttpUri) : Prop :=
  uri.query ≠ some [] ∧ uri.query ≠ some ['0'] ∧
    if isAccepted (escape isPathChar uri.host) uri.port then
      (∀ c ∈ uri.host, isDelimiter c = false ∧ c ≠ '@') ∧ hostText uri.host = uri.host ∧
        uri.path ≠ "/0".toList
    else
      uri.host = default.server.host ∧ number uri.port = number default.port ∧
        rootPath uri.path = ['/']

instance (lib : UriLibrary) (result : Text) (uri : HttpUri) :
    Decidable (SameResource lib result uri) :=
  inferInstanceAs (Decidable (_ ∧ _ ∧ _ ∧ _))

instance (default : DefaultUrl) (uri : HttpUri) : Decidable (LinkSurvives default uri) :=
  inferInstanceAs (Decidable (_ ∧ _ ∧ (if isAccepted (escape isPathChar uri.host) uri.port then
      (∀ c ∈ uri.host, isDelimiter c = false ∧ c ≠ '@') ∧ hostText uri.host = uri.host ∧
        uri.path ≠ "/0".toList
    else
      uri.host = default.server.host ∧ number uri.port = number default.port ∧
        rootPath uri.path = ['/'])))

/-! ### The writers -/

/-- Both writers rewrite a URI to one path and query. -/
theorem rewrites_iff {lib : UriLibrary} (hlib : ReadsHttp lib) (baseUri : Text)
    {page uri : HttpUri} (hrewrite : shouldRewriteUrl lib uri.text = true) (link : Text) :
    Rewrites lib baseUri page uri link ↔ link = fixedUri lib uri.text := by
  have htrue : isTrueText uri.text = true := by
    have hcolon : ':' ∈ uri.text := by simp [HttpUri.text]
    simp only [isTrueText, Bool.and_eq_true, decide_eq_true_eq]
    refine ⟨List.ne_nil_of_mem hcolon, fun hzero ↦ ?_⟩
    rw [hzero] at hcolon
    exact absurd hcolon (by decide)
  constructor
  · rintro (⟨attrs, name, hname, hattr, hlink⟩ | ⟨headers, hheader, hlink⟩)
    · rw [startTag, if_pos hname, hattr, Option.map_some, hlib.newAbs, if_pos hrewrite,
        Option.some.injEq] at hlink
      exact hlink.symm
    · rw [fixRedirects, if_pos rfl, hheader, Option.map_some, htrue, hrewrite, Bool.and_self,
        if_pos rfl, Option.some.injEq, List.append_cancel_left_eq] at hlink
      exact hlink.symm
  · rintro rfl
    refine .inl ⟨fun _ ↦ some uri.text, "href".toList, by decide, rfl, ?_⟩
    rw [startTag, if_pos (by decide), Option.map_some, hlib.newAbs, if_pos hrewrite]

/-- What is written is made of the components of the URI. -/
theorem fixedUri_text {lib : UriLibrary} (hlib : ReadsHttp lib) (uri : HttpUri) :
    fixedUri lib uri.text = '/' :: (uri.host ++ '/' :: (uri.port ++ rootPath uri.path ++
      queryText (trueQuery uri.query))) := by
  rw [fixedUri, hlib.host, hlib.port, hlib.path, hlib.query]
  simp

/-- A false query is dropped, and any other is kept. -/
theorem trueQuery_eq_iff (query : Option Text) :
    trueQuery query = query ↔ query ≠ some [] ∧ query ≠ some ['0'] := by
  cases query with
  | none => simp [trueQuery]
  | some text =>
    rw [trueQuery, Option.filter_eq_some_iff]
    simp [isTrueText]

theorem trueQuery_trueQuery (query : Option Text) :
    trueQuery (trueQuery query) = trueQuery query := by
  simp [trueQuery, Option.filter_filter]

/-! ### The fields of a followed link -/

theorem pathPart_cons_slash (t : Text) : pathPart ('/' :: t) = '/' :: pathPart t := by
  rw [pathPart, List.takeWhile_cons_of_pos (by decide), pathPart]

/-- The path of the request for a link that starts with a slash. -/
theorem path_followLink (page : HttpUri) (t : Text) :
    (followLink page ('/' :: t)).path = '/' :: escape isPathChar (pathPart t) := by
  have hroot : rootedPath (pathPart ('/' :: t)) = '/' :: pathPart t := by
    rw [pathPart_cons_slash, rootedPath, if_pos (by simp)]
  change escape isPathChar (rootedPath (pathPart ('/' :: t))) = _
  rw [hroot, escape_cons_kept (by decide)]

/-- The fields of a path are what is cut from it after its first slash. -/
theorem field_rooted (t : Text) (place : ℕ) :
    field (split '/' ('/' :: t) 4) (place + 1) = field (splitFields '/' 2 t) place := by
  have hsplit : split '/' ('/' :: t) 4 = [] :: splitFields '/' 2 t := by
    rw [split, if_neg (by simp)]
    exact @splitFields_append_cons '/' [] (by simp) 2 t
  rw [hsplit, field, field, List.getElem?_cons_succ]

/-- Text without delimiters is kept in front of a slash. -/
theorem pathPart_append_slash {t : Text} (ht : ∀ c ∈ t, isDelimiter c = false) (rest : Text) :
    pathPart (t ++ '/' :: rest) = t ++ '/' :: pathPart rest := by
  rw [← pathPart_cons_slash, pathPart,
    List.takeWhile_append_of_pos fun c hc ↦ not_mark_of_not_isDelimiter (ht c hc), pathPart]

/-- Text without delimiters is all that is kept in front of another delimiter. -/
theorem pathPart_append_mark {t : Text} (ht : ∀ c ∈ t, isDelimiter c = false) {mark : Char}
    (hmark : isDelimiter mark = true) (hslash : mark ≠ '/') (rest : Text) :
    pathPart (t ++ mark :: rest) = t := by
  refine takeWhile_at_failure (fun c hc ↦ not_mark_of_not_isDelimiter (ht c hc)) ?_
  simp only [isDelimiter, Bool.or_eq_true, decide_eq_true_eq, hslash, false_or] at hmark
  rcases hmark with rfl | rfl <;> rfl

theorem escape_append_slash (t rest : Text) :
    escape isPathChar (t ++ '/' :: rest) =
      escape isPathChar t ++ '/' :: escape isPathChar rest := by
  rw [escape_append, escape_cons_kept (by decide)]

theorem slash_not_mem_escape {t : Text} (ht : ∀ c ∈ t, isDelimiter c = false) :
    '/' ∉ escape isPathChar t :=
  not_mem_escape (by decide) (by decide) fun hslash ↦ absurd (ht '/' hslash) (by decide)

theorem length_unescape_escape_le {t : Text} (hbytes : ∀ c ∈ t, c.toNat < 256) :
    (unescape (escape isPathChar t)).length ≤ t.length := by
  rw [unescape_escape keepsEscapes_isPathChar hbytes]
  exact length_unescape_le t

/-- Escaping keeps the first slash where it is. -/
theorem firstSegment_escape (t : Text) :
    firstSegment (escape isPathChar t) = escape isPathChar (firstSegment t) := by
  have hkept {s : Text} (hs : '/' ∉ s) : ∀ c ∈ s, decide (c ≠ '/') = true := by
    intro c hc
    simpa using ne_of_mem_of_not_mem hc hs
  by_cases hslash : '/' ∈ t
  · obtain ⟨before, rest, rfl, hbefore⟩ := List.eq_append_cons_of_mem hslash
    have hescaped : '/' ∉ escape isPathChar before := not_mem_escape (by decide) (by decide) hbefore
    rw [escape_append_slash, firstSegment, firstSegment,
      takeWhile_at_failure (hkept hescaped) (by decide),
      takeWhile_at_failure (hkept hbefore) (by decide)]
  · have hescaped : '/' ∉ escape isPathChar t := not_mem_escape (by decide) (by decide) hslash
    rw [firstSegment, firstSegment, List.takeWhile_eq_self_iff.mpr (hkept hescaped),
      List.takeWhile_eq_self_iff.mpr (hkept hslash)]

/-- A text without delimiters is a first segment. -/
theorem firstSegment_append_slash {t : Text} (ht : ∀ c ∈ t, isDelimiter c = false) (rest : Text) :
    firstSegment (t ++ '/' :: rest) = t := by
  refine takeWhile_at_failure (fun c hc ↦ ?_) (by decide)
  rw [decide_eq_true_eq]
  rintro rfl
  exact absurd (ht '/' hc) (by decide)

theorem firstSegment_of_plain {t : Text} (ht : ∀ c ∈ t, isDelimiter c = false) :
    firstSegment t = t := by
  refine List.takeWhile_eq_self_iff.mpr fun c hc ↦ ?_
  rw [decide_eq_true_eq]
  rintro rfl
  exact absurd (ht '/' hc) (by decide)

/-- A text is free of delimiters, or is cut at the first one. -/
theorem plain_or_delimiter (t : Text) :
    (∀ c ∈ t, isDelimiter c = false) ∨
      ∃ before mark after, t = before ++ mark :: after ∧
        (∀ c ∈ before, isDelimiter c = false) ∧ isDelimiter mark = true := by
  by_cases hplain : ∀ c ∈ t, isDelimiter c = false
  · exact .inl hplain
  · have hfails : ∃ c ∈ t, (!isDelimiter c) = false := by
      simpa only [not_forall, Bool.not_eq_false, exists_prop, Bool.not_eq_eq_eq_not,
        Bool.not_false] using hplain
    obtain ⟨before, mark, after, ht, hbefore, hmark⟩ := exists_first_failure hfails
    refine .inr ⟨before, mark, after, ht, fun c hc ↦ ?_, ?_⟩
    · simpa using hbefore c hc
    · simpa using hmark

/-- The first segment of a path in which a slash follows a text starts the text. -/
theorem firstSegment_pathPart (t rest : Text) :
    firstSegment (pathPart (t ++ '/' :: rest)) <+: t := by
  rcases plain_or_delimiter t with hplain | ⟨before, mark, after, rfl, hbefore, hmark⟩
  · rw [pathPart_append_slash hplain, firstSegment_append_slash hplain]
  · rw [List.append_assoc, List.cons_append]
    by_cases hslash : mark = '/'
    · subst hslash
      rw [pathPart_append_slash hbefore, firstSegment_append_slash hbefore]
      exact List.prefix_append _ _
    · rw [pathPart_append_mark hbefore hmark hslash, firstSegment_of_plain hbefore]
      exact List.prefix_append _ _

/-- The fields of a followed link whose host has a delimiter. The port field is cut from the host,
and so is the first segment of the rest, unless the port field is all that follows the delimiter. -/
theorem linkFields_of_delimiter {before after : Text} {mark : Char} (rest : Text)
    (hbefore : ∀ c ∈ before, isDelimiter c = false) (hmark : isDelimiter mark = true)
    (hbytes : ∀ c ∈ before ++ mark :: after, c.toNat < 256) :
    let fields := splitFields '/' 2
      (escape isPathChar (pathPart (before ++ mark :: (after ++ '/' :: rest))))
    (unescape (field fields 0)).length ≤ before.length ∧
      (field fields 1 = [] ∧ field fields 2 = [] ∨
        (unescape (field fields 1)).length < after.length ∧
          (unescape (firstSegment (field fields 2))).length ≤ after.length ∨
        (unescape (field fields 1)).length ≤ after.length ∧
          field fields 2 = escape isPathChar (pathPart rest)) := by
  have hbeforeBytes := length_unescape_escape_le fun c hc ↦ hbytes c (List.mem_append_left _ hc)
  have hafterBytes : ∀ c ∈ after, c.toNat < 256 := fun c hc ↦ hbytes c (by simp [hc])
  by_cases hslash : mark = '/'
  · subst hslash
    rw [pathPart_append_slash hbefore, escape_append_slash,
      splitFields_append_cons (slash_not_mem_escape hbefore)]
    refine ⟨hbeforeBytes, .inr ?_⟩
    rcases plain_or_delimiter after with hplain | ⟨port, mark', after', rfl, hport, hmark'⟩
    · -- Nothing is left of the host behind the port field.
      rw [pathPart_append_slash hplain, escape_append_slash,
        splitFields_append_cons (slash_not_mem_escape hplain)]
      exact .inr ⟨length_unescape_escape_le hafterBytes, rfl⟩
    · have hportLength := length_unescape_escape_le fun c hc ↦
        hafterBytes c (List.mem_append_left _ hc)
      refine .inl ?_
      rw [List.append_assoc, List.cons_append]
      by_cases hslash' : mark' = '/'
      · subst hslash'
        have hstarts := firstSegment_pathPart after' rest
        have hsegment : (unescape (firstSegment
            (escape isPathChar (pathPart (after' ++ '/' :: rest))))).length ≤ after'.length := by
          rw [firstSegment_escape]
          refine (length_unescape_escape_le fun c hc ↦ ?_).trans hstarts.length_le
          exact hafterBytes c (by simp [hstarts.subset hc])
        rw [pathPart_append_slash hport, escape_append_slash,
          splitFields_append_cons (slash_not_mem_escape hport)]
        simp only [field, splitFields, List.getElem?_cons_zero, List.getElem?_cons_succ,
          Option.getD_some, List.length_append, List.length_cons]
        omega
      · rw [pathPart_append_mark hport hmark' hslash',
          splitFields_of_not_mem (slash_not_mem_escape hport)]
        simp only [field, List.getElem?_cons_zero, List.getElem?_cons_succ, List.getElem?_nil,
          Option.getD_some, Option.getD_none, firstSegment, List.takeWhile_nil, unescape,
          List.length_nil, List.length_append, List.length_cons]
        omega
  · rw [pathPart_append_mark hbefore hmark hslash,
      splitFields_of_not_mem (slash_not_mem_escape hbefore)]
    exact ⟨hbeforeBytes, .inl ⟨rfl, rfl⟩⟩

/-- The three readings of the fields of a path. -/
theorem pathFields_rooted (t : Text) :
    pathFields ('/' :: t) =
      if field (splitFields '/' 2 t) 0 = "favicon.ico".toList then
        ⟨[], [], "/favicon.ico".toList⟩
      else if field (splitFields '/' 2 t) 0 = "static".toList then
        ⟨[], [], field (splitFields '/' 2 t) 1⟩
      else
        ⟨field (splitFields '/' 2 t) 0, field (splitFields '/' 2 t) 1,
          orEmpty (field (splitFields '/' 2 t) 2)⟩ := by
  simp only [pathFields, field_rooted]

/-! ### A host with a delimiter -/

theorem targetAuthority_of_not_accepted (default : DefaultUrl) {fields : PathFields}
    (haccepted : isAccepted fields.server fields.port = false) :
    targetAuthority default fields = default.authority ++ firstSegment fields.rest := by
  rw [targetAuthority, haccepted, if_neg Bool.false_ne_true]

theorem targetAuthority_of_accepted (default : DefaultUrl) {fields : PathFields}
    (haccepted : isAccepted fields.server fields.port = true) :
    targetAuthority default fields = fields.server ++ ':' :: fields.port := by
  rw [targetAuthority, if_pos haccepted]

/-- The default URL with a segment appended does not name a host with a delimiter and more behind it
than the segment unescapes to. -/
theorem host_default_ne (default : DefaultUrl) {before after segment : Text} {mark : Char}
    (hbefore : ∀ c ∈ before, isDelimiter c = false) (hmark : isDelimiter mark = true)
    (hsegment : (unescape segment).length ≤ after.length ∨ ∀ c ∈ segment, c.isDigit = true) :
    (readAuthority (default.authority ++ segment)).host ≠ before ++ mark :: after := by
  intro hhost
  have hplain : ∀ c ∈ default.authority, (!isDelimiter c) = true := by
    intro c hc
    simp [(default.authority_chars c hc).1.2]
  have hpercent : '%' ∉ default.authority := fun hc ↦ (default.authority_chars '%' hc).2 rfl
  have hpieces := host_isInfix (default.authority ++ segment)
  rw [hhost, unescape_append_of_not_mem hpercent] at hpieces
  have hlength := @length_dropWhile_le_of_piece (fun c ↦ !isDelimiter c) _ _ hpieces
  rw [dropWhile_at_failure (fun c hc ↦ by simp [hbefore c hc]) (by simp [hmark]),
    List.length_cons] at hlength
  rcases hsegment with hshort | hdigits
  · have hdropped := @length_dropWhile_append_le _ _ (unescape segment) hplain
    omega
  · have hsame : unescape segment = segment :=
      unescape_of_not_mem fun hc ↦ absurd (hdigits '%' hc) (by decide)
    have hnothing : (default.authority ++ segment).dropWhile (fun c ↦ !isDelimiter c) = [] := by
      refine List.dropWhile_eq_nil_iff.mpr fun c hc ↦ ?_
      rcases List.mem_append.mp hc with hdefault | hdigit
      · exact hplain c hdefault
      · simp [not_isDelimiter_of_isDigit (hdigits c hdigit)]
    rw [hsame, hnothing, List.length_nil] at hlength
    omega

/-- Only the fields themselves are accepted. -/
theorem pathFields_rooted_of_accepted {t : Text}
    (haccepted : isAccepted (pathFields ('/' :: t)).server (pathFields ('/' :: t)).port = true) :
    pathFields ('/' :: t) =
      ⟨field (splitFields '/' 2 t) 0, field (splitFields '/' 2 t) 1,
        orEmpty (field (splitFields '/' 2 t) 2)⟩ := by
  rw [pathFields_rooted] at haccepted ⊢
  split_ifs at haccepted ⊢ with hfavicon hstatic
  · exact absurd haccepted (by simp [not_isAccepted_nil])
  · exact absurd haccepted (by simp [not_isAccepted_nil])
  · rfl

section Delimiter

variable {before after port path rest : Text} {mark : Char}

/-- The rest of the link itself, behind a port field that is all of the host that was left. -/
theorem escape_rest (hport : ∀ c ∈ port, c.isDigit = true)
    (hpath : ∀ c ∈ '/' :: path, isPathChar c = true) (hrest : pathPart rest = port ++ '/' :: path) :
    escape isPathChar (pathPart rest) = port ++ '/' :: path := by
  rw [hrest, escape_of_kept]
  intro c hc
  rcases List.mem_append.mp hc with hdigit | hmem
  · exact isPathChar_of_isDigit (hport c hdigit)
  · exact hpath c hmem

/-- What a followed link appends to the default URL's authority is cut from its host or is its
port. -/
theorem firstSegment_rest_of_delimiter (hbefore : ∀ c ∈ before, isDelimiter c = false)
    (hmark : isDelimiter mark = true) (hbytes : ∀ c ∈ before ++ mark :: after, c.toNat < 256)
    (hport : ∀ c ∈ port, c.isDigit = true) (hpath : ∀ c ∈ '/' :: path, isPathChar c = true)
    (hrest : pathPart rest = port ++ '/' :: path) :
    let segment := firstSegment (pathFields
      ('/' :: escape isPathChar (pathPart (before ++ mark :: (after ++ '/' :: rest))))).rest
    (unescape segment).length ≤ after.length ∨ ∀ c ∈ segment, c.isDigit = true := by
  obtain ⟨-, hcases⟩ := linkFields_of_delimiter rest hbefore hmark hbytes
  have hslash := @separator_not_mem_field '/'
    (escape isPathChar (pathPart (before ++ mark :: (after ++ '/' :: rest)))) 2 1 (by omega)
  rw [pathFields_rooted]
  generalize splitFields '/' 2 _ = cut at hcases hslash ⊢
  have hnone : (unescape (firstSegment [])).length ≤ after.length := by
    simp [firstSegment, unescape]
  split_ifs with hfavicon hstatic
  · exact .inl hnone
  · -- The port field has no slash, so all of it is appended.
    have hsegment : firstSegment (field cut 1) = field cut 1 := by
      refine List.takeWhile_eq_self_iff.mpr fun c hc ↦ ?_
      simpa using ne_of_mem_of_not_mem hc hslash
    refine .inl ?_
    rw [hsegment]
    rcases hcases with ⟨hempty, -⟩ | ⟨hshort, -⟩ | ⟨hlength, -⟩
    · simp [hempty, unescape]
    · exact hshort.le
    · exact hlength
  · rcases orEmpty_cases (field cut 2) with hsame | hempty
    · rw [hsame]
      rcases hcases with ⟨-, hempty⟩ | ⟨-, hsegment⟩ | ⟨-, hlink⟩
      · exact .inl (by rw [hempty]; exact hnone)
      · exact .inl hsegment
      · rw [hlink, escape_rest hport hpath hrest,
          firstSegment_append_slash fun c hc ↦ not_isDelimiter_of_isDigit (hport c hc)]
        exact .inr hport
    · exact .inl (by rw [hempty]; exact hnone)

/-- A followed link whose host has a delimiter does not lead to that host and the path. -/
theorem not_returns_of_delimiter (default : DefaultUrl)
    (hbefore : ∀ c ∈ before, isDelimiter c = false) (hmark : isDelimiter mark = true)
    (hbytes : ∀ c ∈ before ++ mark :: after, c.toNat < 256)
    (hport : ∀ c ∈ port, c.isDigit = true) (hpath : ∀ c ∈ '/' :: path, isPathChar c = true)
    (hrest : pathPart rest = port ++ '/' :: path) :
    let fields := pathFields
      ('/' :: escape isPathChar (pathPart (before ++ mark :: (after ++ '/' :: rest))))
    ¬ ((readAuthority (targetAuthority default fields)).host = before ++ mark :: after ∧
      rootPath (targetPath fields) = '/' :: path) := by
  rintro fields ⟨hhost, hreturned⟩
  cases haccepted : isAccepted fields.server fields.port with
  | false =>
    rw [targetAuthority_of_not_accepted default haccepted] at hhost
    exact host_default_ne default hbefore hmark
      (firstSegment_rest_of_delimiter hbefore hmark hbytes hport hpath hrest) hhost
  | true =>
    have hfields : fields = _ := pathFields_rooted_of_accepted haccepted
    obtain ⟨hserver, hcases⟩ := linkFields_of_delimiter rest hbefore hmark hbytes
    generalize splitFields '/' 2 _ = cut at hserver hcases hfields
    rcases hcases with ⟨hempty, -⟩ | ⟨hshort, -⟩ | ⟨-, hlink⟩
    · rw [hfields, hempty, not_isAccepted_no_port] at haccepted
      cases haccepted
    · -- The server and the port together are shorter than the host.
      have hlength := length_host_le (targetAuthority default fields)
      rw [hhost, targetAuthority_of_accepted default haccepted, hfields,
        unescape_append_cons (by decide) (by decide)] at hlength
      simp only [List.length_append, List.length_cons] at hlength
      omega
    · -- The port and the path of the link have become the path.
      have hslash : '/' ∈ field cut 2 := by
        rw [hlink, escape_rest hport hpath hrest]
        simp
      rw [targetPath, if_pos haccepted, hfields, orEmpty_of_mem hslash (by decide), hlink,
        escape_rest hport hpath hrest, rootPath, if_neg (by simp)] at hreturned
      have hlength := congrArg List.length hreturned
      simp only [List.length_append, List.length_cons] at hlength
      omega

end Delimiter

/-! ### A host without a delimiter -/

/-- The fields of a followed link are the host, the port and the path of the URI. -/
theorem pathFields_of_plain {host port path rest : Text}
    (hhost : ∀ c ∈ host, isDelimiter c = false) (hfavicon : host ≠ "favicon.ico".toList)
    (hstatic : host ≠ "static".toList) (hport : ∀ c ∈ port, c.isDigit = true)
    (hpath : ∀ c ∈ '/' :: path, isPathChar c = true) (hrest : pathPart rest = port ++ '/' :: path) :
    pathFields ('/' :: escape isPathChar (pathPart (host ++ '/' :: rest))) =
      ⟨escape isPathChar host, port, orEmpty path⟩ := by
  have hslash : '/' ∉ port := fun hmem ↦ absurd (hport '/' hmem) (by decide)
  have hname {name : Text} (hpercent : '%' ∉ name) (hne : host ≠ name) :
      escape isPathChar host ≠ name := by
    rintro rfl
    exact hne (escape_eq_self hpercent).symm
  rw [pathFields_rooted, pathPart_append_slash hhost, escape_append_slash,
    escape_rest hport hpath hrest, splitFields_append_cons (slash_not_mem_escape hhost),
    splitFields_append_cons hslash]
  have hserver : field (escape isPathChar host :: port :: splitFields '/' 0 path) 0 =
      escape isPathChar host := rfl
  rw [hserver, if_neg (hname (by decide) hfavicon), if_neg (hname (by decide) hstatic)]
  rfl

/-- An accepted host reads back as itself exactly when it has no user information, no brackets and
no escapes. -/
theorem host_accepted_iff {host port : Text} (hbytes : ∀ c ∈ host, c.toNat < 256)
    (hport : ∀ c ∈ port, c.isDigit = true) (hsome : port ≠ []) :
    (readAuthority (escape isPathChar host ++ ':' :: port)).host = host ↔
      '@' ∉ host ∧ hostText host = host := by
  rw [readAuthority_of_digits _ hport hsome]
  rcases afterLast_cases '@' host with ⟨hat, -⟩ | ⟨hserver, user, hsplit⟩
  · have hescaped : '@' ∉ escape isPathChar host := not_mem_escape (by decide) (by decide) hat
    rw [afterLast_of_not_mem hescaped, hostText_escape hbytes]
    simp [hat]
  · -- What follows the user information is shorter than the host.
    generalize afterLast '@' host = server at hserver hsplit
    subst hsplit
    have hescaped : '@' ∉ escape isPathChar server :=
      not_mem_escape (by decide) (by decide) hserver
    rw [escape_append, escape_cons_kept (by decide), afterLast_append_cons _ hescaped]
    refine iff_of_false (fun hsame ↦ ?_) fun hplain ↦ hplain.1 (by simp)
    change hostText (escape isPathChar server) = user ++ '@' :: server at hsame
    have hpiece := (hostText_isInfix (escape isPathChar server)).length_le
    have hshort : (unescape (escape isPathChar server)).length ≤ server.length :=
      length_unescape_escape_le fun c hc ↦ hbytes c (by simp [hc])
    rw [hsame, List.length_append, List.length_cons] at hpiece
    omega

/-- A followed link whose host has no delimiter leads back to the host, the port and the path
exactly when they are accepted and kept, or when they are the default URL's and its root. -/
theorem returns_of_plain_iff (default : DefaultUrl) {host port path : Text}
    (hbytes : ∀ c ∈ host, c.toNat < 256) (hport : ∀ c ∈ port, c.isDigit = true)
    (hsome : port ≠ []) (fields : PathFields)
    (hfields : fields = ⟨escape isPathChar host, port, orEmpty path⟩) :
    ((readAuthority (targetAuthority default fields)).host = host ∧
        number (readAuthority (targetAuthority default fields)).port = number port ∧
        rootPath (targetPath fields) = '/' :: path) ↔
      if isAccepted (escape isPathChar host) port then
        ('@' ∉ host ∧ hostText host = host) ∧ path ≠ ['0']
      else host = default.server.host ∧ number port = number default.port ∧ path = [] := by
  subst hfields
  cases haccepted : isAccepted (escape isPathChar host) port with
  | true =>
    have hreadPort : (readAuthority (escape isPathChar host ++ ':' :: port)).port = port := by
      rw [readAuthority_of_digits _ hport hsome]
    have hpath : rootPath ('/' :: orEmpty path) = '/' :: path ↔ path ≠ ['0'] := by
      rw [rootPath, if_neg (by simp), List.cons_inj_right, orEmpty_eq_self_iff]
    rw [targetAuthority_of_accepted default haccepted, targetPath, if_pos haccepted, if_pos rfl,
      host_accepted_iff hbytes hport hsome, hreadPort, hpath]
    simp
  | false =>
    rw [targetAuthority_of_not_accepted default haccepted, targetPath, haccepted,
      if_neg Bool.false_ne_true, if_neg Bool.false_ne_true]
    by_cases hroot : path = []
    · subst hroot
      have hauthority : default.authority ++ firstSegment (orEmpty []) = default.authority :=
        List.append_nil _
      rw [hauthority, default.readAuthority_authority]
      simp only [DefaultUrl.server, eq_comm, and_true]
      exact and_congr_right fun _ ↦ and_iff_left rfl
    · -- Less than the path is left behind the default URL.
      refine iff_of_false (fun hreturns ↦ ?_) fun hkept ↦ hroot hkept.2.2
      have hlength : (afterSegment (orEmpty path)).length ≤ path.length := by
        refine (List.dropWhile_sublist _).length_le.trans ?_
        rcases orEmpty_cases path with hsame | hempty
        · rw [hsame]
        · simp [hempty]
      have hreturned := hreturns.2.2
      rw [rootPath] at hreturned
      split_ifs at hreturned with hempty
      · exact hroot (List.cons.inj hreturned).2.symm
      · rw [hreturned, List.length_cons] at hlength
        omega

/-! ### The round trip -/

/-- The names that stand for no server are no hosts that are rewritten. -/
theorem host_not_special {lib : UriLibrary} (hlib : ReadsHttp lib) {uri : HttpUri}
    (hrewrite : shouldRewriteUrl lib uri.text = true) :
    uri.host ≠ "favicon.ico".toList ∧ uri.host ≠ "static".toList := by
  have hserver : isRewrittenServer ⟨uri.host, uri.port⟩ = true := by
    rw [shouldRewriteUrl, Bool.and_eq_true, hlib.host, hlib.port] at hrewrite
    exact hrewrite.2
  have hfavicon : isRewrittenServer ⟨"favicon.ico".toList, uri.port⟩ = false := rfl
  have hstatic : isRewrittenServer ⟨"static".toList, uri.port⟩ = false := rfl
  constructor
  · intro hhost
    rw [hhost, hfavicon] at hserver
    cases hserver
  · intro hhost
    rw [hhost, hstatic] at hserver
    cases hserver

theorem rootPath_cons (uri : HttpUri) : ∃ path, rootPath uri.path = '/' :: path ∧
    (uri.path = "/0".toList ↔ path = ['0']) ∧ ∀ c ∈ '/' :: path, isPathChar c = true := by
  rcases uri.path_rooted with hempty | ⟨path, hpath⟩
  · refine ⟨[], by rw [hempty, rootPath, if_pos rfl], ?_, by decide⟩
    rw [hempty]
    decide
  · refine ⟨path, by rw [hpath, rootPath, if_neg (by simp)], ?_, hpath ▸ uri.path_chars⟩
    rw [hpath]
    exact List.cons_inj_right '/'

/-- The condition for a host without a delimiter. -/
theorem linkSurvives_of_plain_iff (default : DefaultUrl) {uri : HttpUri} {path : Text}
    (hplain : ∀ c ∈ uri.host, isDelimiter c = false) (hroot : rootPath uri.path = '/' :: path)
    (hzero : uri.path = "/0".toList ↔ path = ['0']) :
    LinkSurvives default uri ↔
      (if isAccepted (escape isPathChar uri.host) uri.port then
          ('@' ∉ uri.host ∧ hostText uri.host = uri.host) ∧ path ≠ ['0']
        else uri.host = default.server.host ∧ number uri.port = number default.port ∧ path = []) ∧
      uri.query ≠ some [] ∧ uri.query ≠ some ['0'] := by
  have hhost : (∀ c ∈ uri.host, isDelimiter c = false ∧ c ≠ '@') ↔ '@' ∉ uri.host := by
    constructor
    · exact fun hall hat ↦ (hall '@' hat).2 rfl
    · exact fun hat c hc ↦ ⟨hplain c hc, ne_of_mem_of_not_mem hc hat⟩
  have hempty : rootPath uri.path = ['/'] ↔ path = [] := by
    rw [hroot]
    exact List.cons_inj_right '/'
  rw [LinkSurvives, hhost, hempty, ne_eq uri.path, hzero, ← and_assoc, and_comm,
    ← @and_assoc ('@' ∉ uri.host)]

/-- A link to a host with a delimiter does not survive. -/
theorem not_linkSurvives_of_delimiter (default : DefaultUrl) {uri : HttpUri} {before after : Text}
    {mark : Char} (hhost : uri.host = before ++ mark :: after)
    (hbefore : ∀ c ∈ before, isDelimiter c = false) (hmark : isDelimiter mark = true) :
    ¬ LinkSurvives default uri := by
  rintro ⟨-, -, hkept⟩
  split_ifs at hkept
  · have hplain := (hkept.1 mark (by rw [hhost]; simp)).1
    rw [hmark] at hplain
    cases hplain
  · have hother := @host_default_ne default before after [] mark hbefore hmark (.inr (by simp))
    rw [List.append_nil, default.readAuthority_authority, ← hkept.1] at hother
    exact hother hhost

/-- A link survives when following it leads to a target with the components of the URI. -/
theorem roundTrips_iff_target {lib : UriLibrary} (hlib : ReadsHttp lib) (default : DefaultUrl)
    (page uri : HttpUri) (hrewrite : shouldRewriteUrl lib uri.text = true) :
    RoundTrips lib default page uri ↔
      let target := targetUri default (followLink page (fixedUri lib uri.text))
      ((readAuthority target.authority).host = uri.host ∧
        number (readAuthority target.authority).port = number uri.port ∧
        rootPath target.path = rootPath uri.path) ∧ target.query = uri.query := by
  have hsame (target : HttpUri) : SameResource lib target.text uri ↔
      ((readAuthority target.authority).host = uri.host ∧
        number (readAuthority target.authority).port = number uri.port ∧
        rootPath target.path = rootPath uri.path) ∧ target.query = uri.query := by
    rw [SameResource, hlib.host, hlib.port, hlib.path, hlib.query, HttpUri.host, HttpUri.port,
      and_assoc, and_assoc]
  simp only
  rw [← hsame]
  constructor
  · intro htrips
    have hreturned := htrips [] _ (fun _ ↦ none) ((rewrites_iff hlib [] hrewrite _).mpr rfl)
    rwa [uri_filter hlib] at hreturned
  · intro hreturned baseUri link headers hlink
    rw [(rewrites_iff hlib baseUri hrewrite link).mp hlink, uri_filter hlib]
    exact hreturned

/-- The request for a link has the query that was written. -/
theorem query_followLink (page : HttpUri) {t : Text} (ht : ∀ c ∈ t, (c ≠ '?' && c ≠ '#') = true)
    {query : Option Text} (hquery : ∀ text ∈ query, ∀ c ∈ text, isUric c = true) :
    (followLink page (t ++ queryText query)).query = query := by
  have hpart : queryPart (t ++ queryText query) = query := by
    have hwhole := queryPart_append ht hquery none
    rwa [fragmentText, List.append_nil] at hwhole
  change (queryPart (t ++ queryText query)).map (escape isUric) = query
  rw [hpart]
  cases query with
  | none => rfl
  | some text => rw [Option.map_some, escape_of_kept (hquery text rfl)]

/-- The request for the link of a host without a delimiter has the query that was written, whatever
path stands before it. -/
theorem query_followLink_of_plain (page : HttpUri) {host rest : Text}
    (hplain : ∀ c ∈ host, isDelimiter c = false)
    (hkept : ∀ c ∈ rest, (c ≠ '?' && c ≠ '#') = true) {query : Option Text}
    (hquery : ∀ text ∈ query, ∀ c ∈ text, isUric c = true) :
    (followLink page ('/' :: (host ++ '/' :: (rest ++ queryText query)))).query = query := by
  have hshape : '/' :: (host ++ '/' :: (rest ++ queryText query)) =
      ('/' :: (host ++ '/' :: rest)) ++ queryText query := by
    simp
  rw [hshape]
  refine query_followLink page (fun c hc ↦ ?_) hquery
  rw [← List.cons_append, List.mem_append, List.mem_cons, List.mem_cons] at hc
  rcases hc with (rfl | hmem) | rfl | hmem
  · decide
  · exact not_mark_of_not_isDelimiter (hplain c hmem)
  · decide
  · exact hkept c hmem

/-- Following a rewritten link asks for what the link named exactly when the reader accepts the
server and nothing is lost on the way, or when the link is to the root of the default URL. -/
theorem roundTrips_iff {lib : UriLibrary} (hlib : ReadsHttp lib) (default : DefaultUrl)
    (page uri : HttpUri) (hrewrite : shouldRewriteUrl lib uri.text = true) :
    RoundTrips lib default page uri ↔ LinkSurvives default uri := by
  obtain ⟨path, hroot, hzero, hpath⟩ := rootPath_cons uri
  have hbytes : ∀ c ∈ uri.host, c.toNat < 256 := fun c hc ↦ uri.lt_of_mem_host hc
  have hport : ∀ c ∈ uri.port, c.isDigit = true := fun c hc ↦ isDigit_of_mem_port hc
  have hquery : ∀ text ∈ trueQuery uri.query, ∀ c ∈ text, isUric c = true :=
    fun text htext ↦ uri.query_chars text (Option.filter_eq_some_iff.mp htext).1
  have hkept : ∀ c ∈ uri.port ++ '/' :: path, (c ≠ '?' && c ≠ '#') = true := by
    intro c hc
    rcases List.mem_append.mp hc with hdigit | hmem
    · exact not_mark_of_isPathChar (isPathChar_of_isDigit (hport c hdigit))
    · exact not_mark_of_isPathChar (hpath c hmem)
  have hrest : pathPart (uri.port ++ '/' :: path ++ queryText (trueQuery uri.query)) =
      uri.port ++ '/' :: path := by
    have hwhole := pathPart_append hkept (trueQuery uri.query) none
    rwa [fragmentText, List.append_nil] at hwhole
  rw [roundTrips_iff_target hlib default page uri hrewrite, fixedUri_text hlib, hroot]
  rcases plain_or_delimiter uri.host with hplain | ⟨before, mark, after, hhost, hbefore, hmark⟩
  · obtain ⟨hfavicon, hstatic⟩ := host_not_special hlib hrewrite
    have hrequestQuery := query_followLink_of_plain page hplain hkept hquery
    have hfields := pathFields_of_plain hplain hfavicon hstatic hport hpath hrest
    have hreturns :=
      returns_of_plain_iff default hbytes hport (port_ne_nil uri.authority) _ hfields
    simp only [targetUri, path_followLink, hrequestQuery, trueQuery_trueQuery]
    rw [hreturns, trueQuery_eq_iff, linkSurvives_of_plain_iff default hplain hroot hzero]
  · have hshape : uri.host ++ '/' :: (uri.port ++ '/' :: path ++ queryText (trueQuery uri.query)) =
        before ++ mark :: (after ++ '/' :: (uri.port ++ '/' :: path ++
          queryText (trueQuery uri.query))) := by
      rw [hhost]
      simp
    have hcutBytes : ∀ c ∈ before ++ mark :: after, c.toNat < 256 := by
      rw [← hhost]
      exact hbytes
    have hnot := not_returns_of_delimiter default hbefore hmark hcutBytes hport hpath hrest
    rw [← hshape, ← hhost] at hnot
    simp only [targetUri, path_followLink]
    exact iff_of_false (fun hreturned ↦ hnot ⟨hreturned.1.1, hreturned.1.2.2⟩)
      (not_linkSurvives_of_delimiter default hhost hbefore hmark)

/-- The link to a task is followed to the task. -/
theorem roundTrips_iff_taskPage : RoundTrips genericSyntax masterUrl startPage taskPage :=
  (roundTrips_iff readsHttp_genericSyntax masterUrl startPage taskPage (by decide +kernel)).mpr
    (by decide +kernel)

/-- Links to port 80 are written, and their requests are sent to the default URL. -/
theorem webServer_notReached :
    shouldRewriteUrl genericSyntax instancePage.text = true ∧
      ¬ RoundTrips genericSyntax masterUrl startPage instancePage := by
  have hrewrite : shouldRewriteUrl genericSyntax instancePage.text = true := by decide +kernel
  refine ⟨hrewrite, fun htrips ↦ ?_⟩
  have hreturned := htrips [] (fixedUri genericSyntax instancePage.text) (fun _ ↦ none)
    ((rewrites_iff readsHttp_genericSyntax [] hrewrite _).mpr rfl)
  have hlost : ¬ SameResource genericSyntax (filter genericSyntax masterUrl.text
      ⟨(followLink startPage (fixedUri genericSyntax instancePage.text)).text, fun _ ↦ none⟩).2.uri
      instancePage := by decide +kernel
  exact hlost hreturned

end Ec2Wrappers.Microproxy
