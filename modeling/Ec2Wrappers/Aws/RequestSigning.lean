import Ec2Wrappers.Foundations.Base64
import Ec2Wrappers.Foundations.Numerals
import Ec2Wrappers.Foundations.PyStrings
import Ec2Wrappers.Foundations.QueryStrings
import Ec2Wrappers.Foundations.Tables
import Mathlib.Data.List.Sort

/-!
# Signing a request of boto

`QuerySignatureV2AuthHandler` of the vendored boto with the helper it is based on, which signs every
request to EC2 and IAM, and `AWSQueryConnection.make_request` up to there. The parameters of a
request are a dictionary; `hmac` with the secret key is a parameter, from the string to sign to the
bytes of the digest. Of the headers only the content type is written here.

`addAuth_reads_back` is the round trip: whatever the values of the parameters are, a reader of forms
gets them back, and what it has read determines the string that was signed.
`signedString_injective` says that the string determines the request, so what is signed for one
request is not signed for another.
-/

set_option autoImplicit false
set_option relaxedAutoImplicit false

namespace Ec2Wrappers.Aws

open Foundations

/-! ### Parameters -/

/-- A value of a parameter: a string, an integer, or another value with its `str`. -/
inductive ParamValue
  | string (value : PyString)
  | int (value : ℤ)
  | shown (text : Text)
  deriving DecidableEq, Repr

/-- `str` of an integer. -/
def showInt : ℤ → Text
  | .ofNat n => numeral Nat.digitChar 10 n
  | .negSucc n => '-' :: numeral Nat.digitChar 10 (n + 1)

/-- `get_utf8_value`. -/
def ParamValue.utf8 : ParamValue → Text
  | .string value => value.bytes
  | .int value => showInt value
  | .shown text => text

/-- A parameter. -/
structure Param where
  name : Text
  value : ParamValue
  deriving DecidableEq, Repr

/-- The parameters of a request. -/
abbrev Params := Table Param.name

/-- `params[name] = value`. -/
def setParam (params : Params) (name : Text) (value : ParamValue) : Params :=
  params.insertOrReplace ⟨name, value⟩

/-- The value of a `str`. -/
def strValue (text : Text) : ParamValue := .string (.str text)

/-! ### The signature -/

/-- What signs: the access key, `hmac` with the secret key, and whether there is `sha256`. -/
structure Signer where
  accessKey : Text
  digest : Text → List UInt8
  sha256 : Bool

/-- `cmp` says that the first text does not come after the second. -/
def comesFirst : Text → Text → Bool
  | [], _ => true
  | _ :: _, [] => false
  | c :: s, d :: t => c.toNat < d.toNat || (c = d && comesFirst s t)

/-- Names with values in the order of the names. -/
def sortPairs (pairs : List (Text × Text)) : List (Text × Text) :=
  pairs.mergeSort fun first second ↦ comesFirst first.1 second.1

/-- The names and the values that are sent. -/
def sentPairs (params : Params) : List (Text × Text) :=
  sortPairs (params.rows.map fun param ↦ (param.name, param.value.utf8))

/-- The query of some names and values. -/
def canonicalQuery (pairs : List (Text × Text)) : Text :=
  writeQuery (percentQuote []) (percentQuote "-_~".toList) pairs

/-- The string to sign. -/
def stringToSign (verb serverName path query : Text) : Text :=
  verb ++ '\n' :: (serverName.map Char.toLower ++ '\n' :: (path ++ '\n' :: query))

/-- `params['SignatureMethod'] = ..`. -/
def withMethod (signer : Signer) (params : Params) : Params :=
  setParam params "SignatureMethod".toList
    (strValue (if signer.sha256 then "HmacSHA256".toList else "HmacSHA1".toList))

/-- `_calc_signature`: the query string and the signature. -/
def calcSignature (signer : Signer) (params : Params) (verb path serverName : Text) : Text × Text :=
  let query := canonicalQuery (sentPairs (withMethod signer params))
  (query, Base64.encode (signer.digest (stringToSign verb serverName path query)))

/-! ### Requests -/

/-- The fields of an `HTTPRequest` that the signing reads or writes. -/
structure HttpRequest where
  method : Text
  host : Text
  port : ℕ
  path : Text
  params : Params
  contentType : Option Text
  body : Text
  deriving DecidableEq

/-- `_server_name`; `hidesPort` says that the version of Python is one that leaves the port 443
out. -/
def serverName (hidesPort : Bool) (host : Text) (port : ℕ) : Text :=
  if port = 80 ∨ (hidesPort ∧ port = 443) then host
  else host ++ ':' :: numeral Nat.digitChar 10 port

/-- The parameters that `add_auth` adds. -/
def authParams (signer : Signer) (timestamp : Text) (params : Params) : Params :=
  setParam (setParam (setParam params "AWSAccessKeyId".toList (strValue signer.accessKey))
    "SignatureVersion".toList (.int 2)) "Timestamp".toList (strValue timestamp)

/-- The content type of a form. -/
def formType : Text := "application/x-www-form-urlencoded; charset=UTF-8".toList

/-- `'&Signature=' + urllib.quote(signature)`. -/
def signaturePart (signature : Text) : Text :=
  '&' :: ("Signature".toList ++ '=' :: percentQuote "/".toList signature)

/-- `add_auth`. -/
def addAuth (hidesPort : Bool) (signer : Signer) (timestamp : Text) (request : HttpRequest) :
    HttpRequest :=
  let (query, signature) := calcSignature signer (authParams signer timestamp request.params)
    request.method request.path (serverName hidesPort request.host request.port)
  let signed := query ++ signaturePart signature
  if request.method = "POST".toList then
    { request with contentType := some formType, body := signed, params := Table.empty }
  else
    { request with path := request.path ++ '?' :: signed, body := [], params := Table.empty }

/-- `AWSQueryConnection.make_request` up to the signing, for the path `/`. -/
def queryRequest (host : Text) (port : ℕ) (apiVersion action verb : Text) (params : Params) :
    HttpRequest where
  method := verb
  host := host
  port := port
  path := ['/']
  params := setParam (setParam params "Action".toList (strValue action)) "Version".toList
    (strValue apiVersion)
  contentType := none
  body := []

/-! ### What a receiver reads -/

/-- The query that a request carries. -/
def sentQuery (request : HttpRequest) : Text :=
  if request.method = "POST".toList then request.body
  else (request.path.dropWhile (· ≠ '?')).drop 1

/-- The signature of what a receiver has read, with the signature it came with left out. -/
def resign (signer : Signer) (verb serverName path : Text) (read : List (Text × Text)) : Text :=
  let signed := read.filter fun pair ↦ pair.1 ≠ "Signature".toList
  Base64.encode (signer.digest (stringToSign verb serverName path
    (canonicalQuery (sortPairs signed))))

/-- The names and the values of the parameters are bytes. -/
def AreBytes (params : Params) : Prop :=
  ∀ param ∈ params.rows, IsByteText param.name ∧ IsByteText param.value.utf8

instance (params : Params) : Decidable (AreBytes params) :=
  inferInstanceAs (Decidable (∀ param ∈ params.rows, _))

/-! ### The order of the names -/

theorem comesFirst_total (first second : Text) :
    (comesFirst first second || comesFirst second first) = true := by
  induction first generalizing second with
  | nil => rfl
  | cons c first ih =>
    cases second with
    | nil => rfl
    | cons d second =>
      have hrest := ih second
      simp only [comesFirst, Bool.or_eq_true, decide_eq_true_eq, Bool.and_eq_true] at hrest ⊢
      rcases Nat.lt_trichotomy c.toNat d.toNat with hlt | heq | hgt
      · exact .inl (.inl hlt)
      · have hsame : c = d := Char.toNat_inj.mp heq
        rcases hrest with hfirst | hsecond
        · exact .inl (.inr ⟨hsame, hfirst⟩)
        · exact .inr (.inr ⟨hsame.symm, hsecond⟩)
      · exact .inr (.inl hgt)

theorem comesFirst_trans {first second third : Text} (hfirst : comesFirst first second = true)
    (hsecond : comesFirst second third = true) : comesFirst first third = true := by
  induction first generalizing second third with
  | nil => rfl
  | cons c first ih =>
    cases second with
    | nil => cases hfirst
    | cons d second =>
      cases third with
      | nil => cases hsecond
      | cons e third =>
        simp only [comesFirst, Bool.or_eq_true, decide_eq_true_eq, Bool.and_eq_true] at *
        rcases hfirst with hcd | ⟨rfl, hfirst⟩
        · rcases hsecond with hde | ⟨rfl, -⟩
          · exact .inl (hcd.trans hde)
          · exact .inl hcd
        · rcases hsecond with hde | ⟨rfl, hsecond⟩
          · exact .inl hde
          · exact .inr ⟨rfl, ih hfirst hsecond⟩

theorem sortPairs_perm (pairs : List (Text × Text)) : (sortPairs pairs).Perm pairs :=
  List.mergeSort_perm _ _

/-- What has been sorted stays as it is. -/
theorem sortPairs_sortPairs (pairs : List (Text × Text)) :
    sortPairs (sortPairs pairs) = sortPairs pairs := by
  refine List.mergeSort_of_pairwise (List.pairwise_mergeSort ?_ ?_ pairs)
  · intro first second third
    exact comesFirst_trans
  · intro first second
    exact comesFirst_total first.1 second.1

/-! ### Reading a query back -/

section Reading

variable {params : Params} {name : Text} {value : ParamValue}

theorem areBytes_setParam (hparams : AreBytes params) (hname : IsByteText name)
    (hvalue : IsByteText value.utf8) : AreBytes (setParam params name value) := by
  intro param hparam
  rcases (Table.mem_insertOrReplace params _ param).mp hparam with ⟨hold, -⟩ | rfl
  · exact hparams param hold
  · exact ⟨hname, hvalue⟩

theorem mem_sentPairs {pair : Text × Text} : pair ∈ sentPairs params ↔
    ∃ param ∈ params.rows, (param.name, param.value.utf8) = pair := by
  rw [sentPairs, (sortPairs_perm _).mem_iff, List.mem_map]

/-- A parameter that is set is sent. -/
theorem sentPairs_setParam_ne_nil : sentPairs (setParam params name value) ≠ [] := by
  have hmem : (name, value.utf8) ∈ sentPairs (setParam params name value) :=
    mem_sentPairs.mpr ⟨⟨name, value⟩, (Table.mem_insertOrReplace _ _ _).mpr (.inr rfl), rfl⟩
  exact List.ne_nil_of_mem hmem

theorem quotes_names : Quotes (percentQuote []) unquotePlus IsByteText :=
  quotes_percentQuote (by simp)

theorem quotes_values : Quotes (percentQuote "-_~".toList) unquotePlus IsByteText :=
  quotes_percentQuote (by decide)

/-- The query of some parameters is read back. -/
theorem readQuery_canonicalQuery (hparams : AreBytes params) (hsome : sentPairs params ≠ []) :
    readQuery unquotePlus (canonicalQuery (sentPairs params)) = sentPairs params := by
  refine readQuery_writeQuery quotes_names quotes_values hsome fun pair hpair ↦ ?_
  obtain ⟨param, hparam, rfl⟩ := mem_sentPairs.mp hpair
  exact hparams param hparam

/-- The signature is read back. -/
theorem readQuery_signaturePart (query : Text) (digest : List UInt8) :
    readQuery unquotePlus (query ++ signaturePart (Base64.encode digest)) =
      readQuery unquotePlus query ++ [("Signature".toList, Base64.encode digest)] := by
  have hquoted : percentQuote [] "Signature".toList = "Signature".toList :=
    escape_of_kept (by decide)
  have hpart : signaturePart (Base64.encode digest) = '&' ::
      writeQuery (percentQuote []) (percentQuote "/".toList)
        [("Signature".toList, Base64.encode digest)] := by
    rw [writeQuery, List.map_singleton, List.intercalate_singleton, writePiece, hquoted,
      signaturePart]
  rw [hpart, readQuery_append_cons, readQuery_writeQuery quotes_names
    (quotes_percentQuote (by decide)) (List.cons_ne_nil _ _)]
  intro pair hpair
  rw [List.mem_singleton.mp hpair]
  have hname : IsByteText "Signature".toList := by decide
  exact ⟨hname, fun c hc ↦ (Base64.lt_of_mem_encode hc).trans (by decide)⟩

/-- All the parameters that a request is signed with. -/
def signedParams (signer : Signer) (timestamp : Text) (params : Params) : Params :=
  withMethod signer (authParams signer timestamp params)

/-- The string that a request is signed over. -/
def signedString (hidesPort : Bool) (signer : Signer) (timestamp : Text) (request : HttpRequest) :
    Text :=
  stringToSign request.method (serverName hidesPort request.host request.port) request.path
    (canonicalQuery (sentPairs (signedParams signer timestamp request.params)))

/-- What is sent of the parameters, the access key and the time is bytes. -/
structure BytesOnly (signer : Signer) (timestamp : Text) (request : HttpRequest) : Prop where
  params : AreBytes request.params
  accessKey : IsByteText signer.accessKey
  time : IsByteText timestamp

/-- The parameters that are added are bytes when the access key and the time are. -/
theorem areBytes_signedParams {signer : Signer} {timestamp : Text} {request : HttpRequest}
    (hbytes : BytesOnly signer timestamp request) :
    AreBytes (signedParams signer timestamp request.params) := by
  have hmethod : IsByteText
      (if signer.sha256 then "HmacSHA256".toList else "HmacSHA1".toList) := by
    split_ifs <;> decide
  have hversion : IsByteText (ParamValue.int 2).utf8 := by decide +kernel
  refine areBytes_setParam (areBytes_setParam (areBytes_setParam (areBytes_setParam hbytes.params
    (by decide) hbytes.accessKey) (by decide) hversion) (by decide) hbytes.time) (by decide) hmethod

/-- The names that the signing sets. -/
def authNames : List Text :=
  ["AWSAccessKeyId".toList, "SignatureVersion".toList, "Timestamp".toList,
    "SignatureMethod".toList]

theorem find_setParam_of_ne {added : Text} (hname : name ≠ added) (before : Params) :
    (setParam before added value).find name = before.find name := by
  rw [setParam, Table.find_insertOrReplace, if_neg hname]

/-- The signing leaves the parameters of other names. -/
theorem find_signedParams_of_not_mem (signer : Signer) (timestamp : Text) (before : Params)
    (hname : name ∉ authNames) :
    (signedParams signer timestamp before).find name = before.find name := by
  have hother (added : Text) (hadded : added ∈ authNames) : name ≠ added := by
    rintro rfl
    exact hname hadded
  rw [signedParams, withMethod, find_setParam_of_ne (hother _ (by decide)), authParams,
    find_setParam_of_ne (hother _ (by decide)), find_setParam_of_ne (hother _ (by decide)),
    find_setParam_of_ne (hother _ (by decide))]

/-- The query with the signature. -/
def signedQuery (hidesPort : Bool) (signer : Signer) (timestamp : Text) (request : HttpRequest) :
    Text :=
  canonicalQuery (sentPairs (signedParams signer timestamp request.params)) ++
    signaturePart (Base64.encode (signer.digest (signedString hidesPort signer timestamp request)))

/-- A signed request carries the query with the signature. -/
theorem sentQuery_addAuth (hidesPort : Bool) (signer : Signer) (timestamp : Text)
    {request : HttpRequest} (hpath : '?' ∉ request.path) :
    sentQuery (addAuth hidesPort signer timestamp request) =
      signedQuery hidesPort signer timestamp request := by
  have hbefore : ∀ c ∈ request.path, decide (c ≠ '?') = true := by
    intro c hc
    refine decide_eq_true ?_
    rintro rfl
    exact hpath hc
  by_cases hpost : request.method = "POST".toList
  · have hsigned : addAuth hidesPort signer timestamp request = { request with
        contentType := some formType
        body := signedQuery hidesPort signer timestamp request
        params := Table.empty } := if_pos hpost
    rw [hsigned, sentQuery, if_pos hpost]
  · have hsigned : addAuth hidesPort signer timestamp request = { request with
        path := request.path ++ '?' :: signedQuery hidesPort signer timestamp request
        body := []
        params := Table.empty } := if_neg hpost
    rw [hsigned, sentQuery, if_neg hpost, dropWhile_at_failure hbefore (by decide),
      List.drop_one, List.tail_cons]

/-- What a reader of forms gets from a signed request. -/
theorem readQuery_sentQuery (hidesPort : Bool) {signer : Signer} {timestamp : Text}
    {request : HttpRequest} (hbytes : BytesOnly signer timestamp request)
    (hpath : '?' ∉ request.path) :
    readQuery unquotePlus (sentQuery (addAuth hidesPort signer timestamp request)) =
      sentPairs (signedParams signer timestamp request.params) ++ [("Signature".toList,
        Base64.encode (signer.digest (signedString hidesPort signer timestamp request)))] := by
  rw [sentQuery_addAuth hidesPort signer timestamp hpath, signedQuery, readQuery_signaturePart,
    readQuery_canonicalQuery (areBytes_signedParams hbytes) sentPairs_setParam_ne_nil]

/-- Whatever the values of the parameters are, a reader of forms gets from a signed request the
names and the values of all of them, and a signature; and the signature is that of what was read. -/
theorem addAuth_reads_back (hidesPort : Bool) {signer : Signer} {timestamp : Text}
    {request : HttpRequest} (hbytes : BytesOnly signer timestamp request)
    (hpath : '?' ∉ request.path) (hsignature : request.params.find "Signature".toList = none) :
    ∃ signature, readQuery unquotePlus (sentQuery (addAuth hidesPort signer timestamp request)) =
      sentPairs (signedParams signer timestamp request.params) ++
        [("Signature".toList, signature)] ∧
      signature = resign signer request.method
        (serverName hidesPort request.host request.port) request.path
        (readQuery unquotePlus (sentQuery (addAuth hidesPort signer timestamp request))) := by
  rw [readQuery_sentQuery hidesPort hbytes hpath]
  refine ⟨_, rfl, ?_⟩
  have hsent : ∀ pair ∈ sentPairs (signedParams signer timestamp request.params),
      decide (pair.1 ≠ "Signature".toList) = true := by
    intro pair hpair
    obtain ⟨param, hparam, rfl⟩ := mem_sentPairs.mp hpair
    have hother : "Signature".toList ∉ authNames := by decide
    have hnone := find_signedParams_of_not_mem signer timestamp request.params hother
    rw [hsignature] at hnone
    exact decide_eq_true ((Table.find_eq_none_iff _ _).mp hnone param hparam)
  rw [resign, List.filter_append, List.filter_eq_self.mpr hsent,
    List.filter_cons_of_neg (by simp), List.filter_nil, List.append_nil, sentPairs,
    sortPairs_sortPairs, ← sentPairs, signedString]

end Reading

/-- What is read under a name is the value of the parameter. -/
theorem lookup_sentPairs (params : Params) (name : Text) :
    (sentPairs params).lookup name = (params.find name).map fun param ↦ param.value.utf8 := by
  cases hlookup : (sentPairs params).lookup name with
  | none =>
    have hnone : params.find name = none := by
      refine (Table.find_eq_none_iff params name).mpr fun param hparam hname ↦ ?_
      have hother := List.lookup_eq_none_iff.mp hlookup _ (mem_sentPairs.mpr ⟨param, hparam, rfl⟩)
      exact bne_iff_ne.mp hother hname.symm
    rw [hnone, Option.map_none]
  | some value =>
    obtain ⟨before, after, hsplit, -⟩ := List.lookup_eq_some_iff.mp hlookup
    have hmem : (name, value) ∈ sentPairs params := by
      rw [hsplit]
      exact List.mem_append_right _ List.mem_cons_self
    obtain ⟨param, hparam, hpair⟩ := mem_sentPairs.mp hmem
    obtain ⟨hname, hvalue⟩ := Prod.mk.inj hpair
    rw [(Table.find_eq_some_iff params name param).mpr ⟨hparam, hname⟩, Option.map_some, hvalue]

/-- A signer with the string itself for its digest. -/
def plainSigner : Signer where
  accessKey := "AKIA1".toList
  digest t := t.map fun c ↦ UInt8.ofNat c.toNat
  sha256 := true

/-- A value with marks, a blank, an escape and a letter beyond ASCII. -/
def markedParams : Params :=
  setParam (setParam Table.empty "Action".toList (strValue "RunInstances".toList))
    "KeyName".toList (.string (.unicode "a&b=c + 100%~é".toList))

/-- A request with such a value to a host. -/
def markedRequest (host : Text) : HttpRequest where
  method := "POST".toList
  host := host
  port := 443
  path := ['/']
  params := markedParams
  contentType := none
  body := []

theorem bytesOnly_markedRequest (host : Text) :
    BytesOnly plainSigner "2011-10-01T12:00:00".toList (markedRequest host) where
  params := show AreBytes markedParams by decide +kernel
  accessKey := by decide
  time := by decide

theorem addAuth_reads_back_markedRequest :
    ∃ signature, readQuery unquotePlus (sentQuery (addAuth true plainSigner
        "2011-10-01T12:00:00".toList (markedRequest "ec2.amazonaws.com".toList))) =
      sentPairs (signedParams plainSigner "2011-10-01T12:00:00".toList
        (markedRequest "ec2.amazonaws.com".toList).params) ++
          [("Signature".toList, signature)] ∧
      signature = resign plainSigner "POST".toList "ec2.amazonaws.com".toList ['/']
        (readQuery unquotePlus (sentQuery (addAuth true plainSigner
          "2011-10-01T12:00:00".toList (markedRequest "ec2.amazonaws.com".toList)))) :=
  addAuth_reads_back true (bytesOnly_markedRequest _) (by decide) (by decide +kernel)

/-! ### What is signed -/

/-- A text is cut in one way at its first mark. -/
theorem cut_eq {mark : Char} {before before' after after' : Text} (hbefore : mark ∉ before)
    (hbefore' : mark ∉ before') (hsame : before ++ mark :: after = before' ++ mark :: after') :
    before = before' ∧ after = after' := by
  have hpasses {t : Text} (hmark : mark ∉ t) : ∀ c ∈ t, decide (c ≠ mark) = true := by
    intro c hc
    refine decide_eq_true ?_
    rintro rfl
    exact hmark hc
  have hstops : decide (mark ≠ mark) = false := by simp
  have htake := congrArg (List.takeWhile fun c ↦ decide (c ≠ mark)) hsame
  rw [takeWhile_at_failure (hpasses hbefore) hstops,
    takeWhile_at_failure (hpasses hbefore') hstops] at htake
  subst htake
  exact ⟨rfl, (List.cons.inj (List.append_cancel_left hsame)).2⟩

/-- No character but the newline has the newline for its lower case. -/
theorem toLower_ne_newline {c : Char} (hc : c ≠ '\n') : c.toLower ≠ '\n' := by
  unfold Char.toLower
  split
  · next hupper =>
    intro heq
    have hnat : (c.val + ('a'.val - 'A'.val)).toNat = 10 :=
      congrArg UInt32.toNat (congrArg Char.val heq)
    have hlow : 65 ≤ c.val.toNat := UInt32.le_iff_toNat_le.mp hupper.1
    have hhigh : c.val.toNat ≤ 90 := UInt32.le_iff_toNat_le.mp hupper.2
    rw [UInt32.toNat_add] at hnat
    have hshift : ('a'.val - 'A'.val).toNat = 32 := rfl
    omega
  · exact hc

theorem newline_not_mem_canonicalQuery (pairs : List (Text × Text)) :
    '\n' ∉ canonicalQuery pairs :=
  not_mem_writeQuery (by decide) (by decide) (not_mem_percentQuote (by decide) (by decide) rfl)
    (not_mem_percentQuote (by decide) (by decide) (by decide)) pairs

/-- The string to sign determines the method, the server in lower case, the path and the query. -/
theorem stringToSign_parts {verb verb' server server' path path' : Text}
    {pairs pairs' : List (Text × Text)} (hverb : '\n' ∉ verb) (hverb' : '\n' ∉ verb')
    (hserver : '\n' ∉ server) (hserver' : '\n' ∉ server')
    (hsame : stringToSign verb server path (canonicalQuery pairs) =
      stringToSign verb' server' path' (canonicalQuery pairs')) :
    verb = verb' ∧ server.map Char.toLower = server'.map Char.toLower ∧ path = path' ∧
      canonicalQuery pairs = canonicalQuery pairs' := by
  have hlower {t : Text} (hmark : '\n' ∉ t) : '\n' ∉ t.map Char.toLower := by
    intro hmem
    obtain ⟨c, hc, heq⟩ := List.mem_map.mp hmem
    refine toLower_ne_newline ?_ heq
    rintro rfl
    exact hmark hc
  obtain ⟨rfl, hrest⟩ := cut_eq hverb hverb' hsame
  obtain ⟨hservers, hrest⟩ := cut_eq (hlower hserver) (hlower hserver') hrest
  -- the path may have newlines, and the query has none
  have hquery := congrArg (afterLast '\n') hrest
  rw [afterLast_append_cons path (newline_not_mem_canonicalQuery pairs),
    afterLast_append_cons path' (newline_not_mem_canonicalQuery pairs')] at hquery
  rw [hquery] at hrest
  exact ⟨rfl, hservers, List.append_cancel_right hrest, hquery⟩

theorem newline_not_mem_serverName {hidesPort : Bool} {host : Text} (hhost : '\n' ∉ host)
    (port : ℕ) : '\n' ∉ serverName hidesPort host port := by
  have hport : '\n' ∉ numeral Nat.digitChar 10 port := by
    intro hmem
    obtain ⟨digit, hdigit, heq⟩ := exists_digit_of_mem_numeral (by decide) hmem
    interval_cases digit <;> cases heq
  unfold serverName
  split_ifs
  · exact hhost
  · simp [hhost, hport]

/-- Two requests with the same string to sign are for the same method, server and path, and send the
same names and values. -/
theorem signedString_injective (hidesPort : Bool) {signer signer' : Signer}
    {timestamp timestamp' : Text} {request request' : HttpRequest}
    (hbytes : BytesOnly signer timestamp request)
    (hbytes' : BytesOnly signer' timestamp' request')
    (hmethod : '\n' ∉ request.method) (hmethod' : '\n' ∉ request'.method)
    (hhost : '\n' ∉ request.host) (hhost' : '\n' ∉ request'.host)
    (hsame : signedString hidesPort signer timestamp request =
      signedString hidesPort signer' timestamp' request') :
    request.method = request'.method ∧
      (serverName hidesPort request.host request.port).map Char.toLower =
        (serverName hidesPort request'.host request'.port).map Char.toLower ∧
      request.path = request'.path ∧
      sentPairs (signedParams signer timestamp request.params) =
        sentPairs (signedParams signer' timestamp' request'.params) := by
  obtain ⟨hmethods, hservers, hpaths, hqueries⟩ := stringToSign_parts hmethod hmethod'
    (newline_not_mem_serverName hhost _) (newline_not_mem_serverName hhost' _) hsame
  refine ⟨hmethods, hservers, hpaths, ?_⟩
  rw [← readQuery_canonicalQuery (areBytes_signedParams hbytes) sentPairs_setParam_ne_nil, hqueries,
    readQuery_canonicalQuery (areBytes_signedParams hbytes') sentPairs_setParam_ne_nil]

/-- The case of the host makes no difference to the string. -/
theorem signedString_injective_markedRequest :
    sentPairs (signedParams plainSigner "2011-10-01T12:00:00".toList
        (markedRequest "EC2.amazonaws.com".toList).params) =
      sentPairs (signedParams plainSigner "2011-10-01T12:00:00".toList
        (markedRequest "ec2.amazonaws.com".toList).params) := by
  have hserver (host : Text) : serverName true host 443 = host := if_pos (.inr ⟨rfl, rfl⟩)
  have hlower : "EC2.amazonaws.com".toList.map Char.toLower =
      "ec2.amazonaws.com".toList.map Char.toLower := by decide
  have hsame : signedString true plainSigner "2011-10-01T12:00:00".toList
        (markedRequest "EC2.amazonaws.com".toList) =
      signedString true plainSigner "2011-10-01T12:00:00".toList
        (markedRequest "ec2.amazonaws.com".toList) := by
    simp only [signedString, stringToSign, markedRequest, hserver, hlower]
  exact (signedString_injective true (bytesOnly_markedRequest _) (bytesOnly_markedRequest _)
    (by decide) (by decide) (by decide) (by decide) hsame).2.2.2

end Ec2Wrappers.Aws
