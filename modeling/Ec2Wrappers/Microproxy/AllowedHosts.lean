import Ec2Wrappers.Microproxy.SimpleProxy

/-!
# Which hosts the proxy reaches

The request filter lets a server and a port through when the server looks like a host inside EC2 and
the port is numerically at least 1000. What it then writes is a text, and a URI is read from it
again: user information in front of an `@` is dropped, and only digits at the end are a port. A port
field such as `2000@example.com` passes the numeric test and names another host. Requests that do
not pass go to the default URL, whose authority the rest of the path extends unless it is empty or
starts with a slash.

`AllowedUri` says that a URI names the server of the default URL or one that `should_rewrite_url`
accepts. A rewritten request has such a URI exactly when the authority that the filter puts together
names such a server (`allowedUri_iff`, `ReachesAllowedServer`).
-/

set_option autoImplicit false
set_option relaxedAutoImplicit false

namespace Ec2Wrappers.Microproxy

open Foundations Perl

/-- The URI names the host and the port of the default URL, or a host and a port for which
`should_rewrite_url` holds. -/
def AllowedUri (lib : UriLibrary) (default : DefaultUrl) (uri : Text) : Prop :=
  lib.host uri = lib.host default.text ∧ number (lib.port uri) = number (lib.port default.text) ∨
    shouldRewriteUrl lib uri = true

/-- The server of the default URL, or one inside EC2. -/
def IsAllowedServer (default : DefaultUrl) (server : HostPort) : Prop :=
  server.host = default.server.host ∧ number server.port = number default.server.port ∨
    isRewrittenServer server = true

/-- What an accepted server and port name. With an `@` in the port it is what follows, and only a
port of digits is one; any other port belongs to the host. -/
def acceptedServer (server port : Text) : HostPort :=
  if '@' ∈ port then readAuthority port
  else if port.all Char.isDigit then ⟨hostText (afterLast '@' server), port⟩
  else readAuthority (server ++ ':' :: port)

/-- What the default URL names with a segment appended to its port. -/
def extendedServer (default : DefaultUrl) (segment : Text) : HostPort :=
  if '@' ∈ segment then readAuthority segment
  else if segment.all Char.isDigit then ⟨default.server.host, default.port ++ segment⟩
  else readAuthority (default.authority ++ segment)

/-- The server and the port are accepted and name an allowed server; or they are not, and what
follows the default URL is empty, starts with a slash, or turns the default URL into that of an
allowed server. -/
def ReachesAllowedServer (default : DefaultUrl) (fields : PathFields) : Prop :=
  if isAccepted fields.server fields.port then
    IsAllowedServer default (acceptedServer fields.server fields.port)
  else
    firstSegment fields.rest = [] ∨
      IsAllowedServer default (extendedServer default (firstSegment fields.rest))

instance (default : DefaultUrl) (server : HostPort) : Decidable (IsAllowedServer default server) :=
  inferInstanceAs (Decidable (_ ∧ _ ∨ _))

instance (default : DefaultUrl) (fields : PathFields) :
    Decidable (ReachesAllowedServer default fields) :=
  inferInstanceAs (Decidable (if isAccepted fields.server fields.port then
      IsAllowedServer default (acceptedServer fields.server fields.port)
    else
      firstSegment fields.rest = [] ∨
        IsAllowedServer default (extendedServer default (firstSegment fields.rest))))

instance (lib : UriLibrary) (default : DefaultUrl) (uri : Text) :
    Decidable (AllowedUri lib default uri) :=
  inferInstanceAs (Decidable (_ ∧ _ ∨ _))

/-! ### Authorities -/

/-- An accepted server and port are read as they are described. -/
theorem readAuthority_accepted {server port : Text} (haccepted : isAccepted server port = true) :
    readAuthority (server ++ ':' :: port) = acceptedServer server port := by
  have hsome : port ≠ [] := by
    rintro rfl
    rw [not_isAccepted_no_port] at haccepted
    cases haccepted
  rw [acceptedServer]
  split_ifs with hat hdigits
  · rw [← List.singleton_append, ← List.append_assoc, readAuthority_append _ hat]
  · exact readAuthority_of_digits server (List.all_eq_true.mp hdigits) hsome
  · rfl

/-- The default URL with a segment appended is read as it is described. -/
theorem readAuthority_extended (default : DefaultUrl) (segment : Text) :
    readAuthority (default.authority ++ segment) = extendedServer default segment := by
  rw [extendedServer]
  split_ifs with hat hdigits
  · exact readAuthority_append _ hat
  · have hall : ∀ c ∈ default.port ++ segment, c.isDigit = true := by
      intro c hc
      rcases List.mem_append.mp hc with hport | hsegment
      · exact default.port_digits c hport
      · exact List.all_eq_true.mp hdigits c hsegment
    rw [DefaultUrl.authority, List.append_assoc, List.cons_append,
      readAuthority_of_digits _ hall (by simp [default.port_some]),
      afterLast_of_not_mem fun hat ↦ (default.host_chars '@' hat).2.1 rfl, DefaultUrl.server]
  · rfl

/-- The authority of a rewritten request names an allowed server exactly under the condition on the
fields of its path. -/
theorem isAllowedServer_target_iff (default : DefaultUrl) (fields : PathFields) :
    IsAllowedServer default (readAuthority (targetAuthority default fields)) ↔
      ReachesAllowedServer default fields := by
  rw [targetAuthority, ReachesAllowedServer]
  split_ifs with haccepted
  · rw [readAuthority_accepted haccepted]
  · rw [← readAuthority_extended]
    refine ⟨.inr, fun hreach ↦ ?_⟩
    rcases hreach with hempty | hallowed
    · rw [hempty, List.append_nil, default.readAuthority_authority]
      exact .inl ⟨rfl, rfl⟩
    · exact hallowed

/-! ### Rewritten requests -/

/-- A URI is allowed when its authority names an allowed server. -/
theorem allowedUri_text_iff {lib : UriLibrary} (hlib : ReadsHttp lib) (default : DefaultUrl)
    (uri : HttpUri) :
    AllowedUri lib default uri.text ↔ IsAllowedServer default (readAuthority uri.authority) := by
  have hhost : lib.host default.text = default.server.host := by
    rw [← default.text_toUri, hlib.host, HttpUri.host, ← default.readAuthority_authority]
    rfl
  have hport : lib.port default.text = default.server.port := by
    rw [← default.text_toUri, hlib.port, HttpUri.port, ← default.readAuthority_authority]
    rfl
  rw [AllowedUri, shouldRewriteUrl, hlib.scheme, hlib.host, hlib.port, hhost, hport,
    IsAllowedServer, HttpUri.host, HttpUri.port, decide_eq_true rfl, Bool.true_and]

/-- A rewritten request goes to an allowed server exactly when the server and the port of its path
name one, or when they are not accepted and the default URL still does with the rest appended. -/
theorem allowedUri_iff {lib : UriLibrary} (hlib : ReadsHttp lib) (default : DefaultUrl)
    (request : HttpUri) (headers : Headers) :
    AllowedUri lib default (filter lib default.text ⟨request.text, headers⟩).2.uri ↔
      ReachesAllowedServer default (pathFields request.path) := by
  rw [uri_filter hlib, allowedUri_text_iff hlib]
  exact isAllowedServer_target_iff default (pathFields request.path)

/-- The page of the file system of a master goes to an allowed server. -/
theorem allowedUri_iff_fileSystem :
    AllowedUri genericSyntax masterUrl (filter genericSyntax masterUrl.text
      ⟨(followLink startPage "/localhost/50070/".toList).text, fun _ ↦ none⟩).2.uri :=
  (allowedUri_iff readsHttp_genericSyntax masterUrl
    (followLink startPage "/localhost/50070/".toList) fun _ ↦ none).mpr (by decide +kernel)

/-- A port field that starts with a large number and goes on with an `@` names any host. -/
theorem foreignHost_reached :
    ¬ AllowedUri genericSyntax masterUrl (filter genericSyntax masterUrl.text
      ⟨(followLink startPage "/10/2000@example.com/".toList).text, fun _ ↦ none⟩).2.uri := by
  decide +kernel

end Ec2Wrappers.Microproxy
