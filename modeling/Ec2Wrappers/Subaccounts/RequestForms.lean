import Ec2Wrappers.Subaccounts.LaunchRequests

/-!
# A request as options and as a document

Whether `ec2-run` treats a request alike that is given as options of its command line and as a JSON
document. `SaysOnCommandLine` and `SaysInDocument` say that a command line and a document give the
same values: an option that is not given says its default, the zone may stand under either of its
two keys or be left out, and the texts of the command line are the UTF-8 bytes of those of the
document.

Both lead to a dictionary that says the values (`Request.Says`), so the decision is that of the
quota check; they differ in the type of two values. The count of the command line is a text, which
no price can be added with, so a command line that gives the count is never accepted
(`ec2Run_commandLine_iff`), and `str` fails on a key name of a document that is not ASCII
(`ec2Run_document_iff`). `sameCall_iff` says when the two agree for all that.
-/

set_option autoImplicit false
set_option relaxedAutoImplicit false

namespace Ec2Wrappers.Subaccounts

open Foundations Aws

/-! ### The values of a request -/

/-- The values of a request: a positive count, a key name that starts with the user's name, an
instance type that has a price. -/
structure LaunchValues (userName : Text) where
  imageId : Text
  count : ℕ
  keyName : Text
  zone : Option Text
  instanceType : Text
  securityGroups : List Text
  userData : List UInt8
  useSpot : Bool
  count_pos : 0 < count
  keyName_starts : userName <+: utf8 keyName
  hasPrice : ∃ cost, instanceCostOf instanceType = .ok cost

/-- A number in decimal. -/
def decimal (number : ℕ) : Text := (Nat.repr number).toList

namespace LaunchValues

variable {userName : Text}

/-- The price of one instance. -/
def price (values : LaunchValues userName) : ℚ :=
  ((instanceCost.lookup values.instanceType).map PyNumber.toRat).getD 0

/-- The entries that `run_instances` uses, with a count of whatever type. -/
def info (values : LaunchValues userName) (count : PyValue) : InstanceInfo where
  imageId := some (utf8 values.imageId)
  count := count
  keyName := some (utf8 values.keyName)
  instanceType := values.instanceType
  securityGroups := values.securityGroups.map utf8
  userData := some (some (ofBytes values.userData))
  availabilityZone := values.zone.map utf8
  useSpot := values.useSpot

end LaunchValues

/-- The options of a command line say the values. The user data is an option, or is on the standard
input. -/
structure SaysOnCommandLine {userName : Text} (values : LaunchValues userName)
    (occurrences : List Occurrence) (stdin : Text) : Prop where
  imageId : held amiOption occurrences = some (.text (utf8 values.imageId))
  count : countOption.given occurrences = some (.text (decimal values.count)) ∨
    countOption.given occurrences = none ∧ values.count = 1
  keyName : held (keyNameOption userName) occurrences = some (.text (utf8 values.keyName))
  zone : held availabilityZoneOption occurrences = values.zone.map fun zone ↦ .text (utf8 zone)
  instanceType : held instanceTypeOption occurrences = some (.text values.instanceType)
  securityGroups : held securityGroupOption occurrences =
    some (.texts (values.securityGroups.map utf8))
  userData : if stdinUserDataOption.IsGiven occurrences then stdin = ofBytes values.userData
    else held userDataOption occurrences = some (.text (ofBytes values.userData))
  useSpot : held spotOption occurrences = some (.flag values.useSpot)
  notDocument : ¬ stdinJsonOption.IsGiven occurrences

/-- An entry of a document holds a text. -/
def HoldsText (t : Text) (entry : Option RequestValue) : Prop :=
  ∃ loaded, entry = some (.string loaded) ∧ LoadedAs t loaded

/-- A document, as it is loaded, says the values. -/
structure SaysInDocument {userName : Text} (values : LaunchValues userName) (document : Request) :
    Prop where
  imageId : HoldsText values.imageId (document .imageId)
  count : document .count = some (.number (.int values.count))
  keyName : HoldsText values.keyName (document .keyName)
  zone : match values.zone with
    | some zone => HoldsText zone ((document .availabilityZone).or (document .placement))
    | none => ∀ entry ∈ (document .availabilityZone).or (document .placement), entry = .none
  instanceType : HoldsText values.instanceType (document .instanceType)
  securityGroups : ∃ loaded, document .securityGroups = some (.strings loaded) ∧
    List.Forall₂ LoadedAs values.securityGroups loaded
  userData : HoldsText (Base64.encode values.userData) (document .userData)
  useSpot : document .useSpot = some (.bool values.useSpot)

/-- `ec2-run` is given the values as options. -/
structure GivenAsOptions (run : Ec2Run) (values : LaunchValues run.user.userName)
    (occurrences : List Occurrence) (stdin : Text) (words : List Text) : Prop where
  parses : parseArgs (ec2RunOptions run.user.userName) words = .ok (occurrences, [])
  gives : SaysOnCommandLine values occurrences stdin

/-- `ec2-run` is given the values as a document. -/
def GivenAsDocument (run : Ec2Run) (values : LaunchValues run.user.userName) (stdin : Text)
    (words : List Text) : Prop :=
  ∃ occurrences document,
    parseArgs (ec2RunOptions run.user.userName) words = .ok (occurrences, []) ∧
    AsksForDocument occurrences ∧ run.load stdin = .ok document ∧ SaysInDocument values document

/-! ### A dictionary that says the values -/

/-- An entry holds a string that is sent as the bytes. -/
def SendsText (bytes : Text) (entry : Option RequestValue) : Prop :=
  ∃ value, entry = some (.string value) ∧ value.bytes = bytes

/-- A dictionary says the values, with this count. -/
structure Request.Says {userName : Text} (request : Request) (values : LaunchValues userName)
    (count : RequestValue) : Prop where
  imageId : SendsText (utf8 values.imageId) (request .imageId)
  count : request .count = some count
  keyName : SendsText (utf8 values.keyName) (request .keyName)
  zone : match values.zone with
    | some zone => SendsText (utf8 zone) (request .availabilityZone)
    | none => ∀ entry ∈ request .availabilityZone, entry = .none
  instanceType : SendsText values.instanceType (request .instanceType)
  securityGroups : ∃ loaded, request .securityGroups = some (.strings loaded) ∧
    loaded.map PyString.bytes = values.securityGroups.map utf8
  userData : SendsText (ofBytes values.userData) (request .userData)
  useSpot : request .useSpot = some (.bool values.useSpot)

section Says

variable {userName : Text} {request : Request} {values : LaunchValues userName}
variable {count : RequestValue}

theorem SendsText.read {bytes : Text} {key : RequestKey} (hsends : SendsText bytes (request key)) :
    request.read key RequestValue.text = .ok (some bytes) := by
  obtain ⟨value, hentry, rfl⟩ := hsends
  exact Request.read_of_some hentry

theorem SendsText.optionalText {bytes : Text} {key : RequestKey}
    (hsends : SendsText bytes (request key)) :
    request.optionalText key = .ok (some (some bytes)) := by
  obtain ⟨value, hentry, rfl⟩ := hsends
  exact Request.optionalText_of_some hentry rfl

/-- A dictionary that says the values reads as them. -/
theorem Request.Says.reads (hsaid : request.Says values count) {factor : PyValue}
    (hfactor : count.factor = .ok factor) : request.Reads (values.info factor) where
  imageId := hsaid.imageId.read
  count := (Request.read_of_some hsaid.count).trans hfactor
  keyName := hsaid.keyName.read
  instanceType := by
    obtain ⟨value, hentry, hbytes⟩ := hsaid.instanceType
    exact (Request.read_of_some hentry).trans (congrArg Except.ok hbytes)
  securityGroups := by
    obtain ⟨loaded, hentry, hbytes⟩ := hsaid.securityGroups
    exact (Request.read_of_some hentry).trans (congrArg Except.ok hbytes)
  userData := hsaid.userData.optionalText
  availabilityZone := by
    have hzone := hsaid.zone
    cases hvalue : values.zone with
    | some zone =>
      rw [hvalue] at hzone
      exact ⟨_, SendsText.optionalText hzone, by simp [LaunchValues.info, hvalue]⟩
    | none =>
      rw [hvalue] at hzone
      cases hentry : request .availabilityZone with
      | none =>
        exact ⟨none, by simp [Request.optionalText, hentry], by simp [LaunchValues.info, hvalue]⟩
      | some entry =>
        obtain rfl := hzone entry hentry
        exact ⟨_, Request.optionalText_of_some hentry rfl, by simp [LaunchValues.info, hvalue]⟩
  useSpot := Request.read_of_some hsaid.useSpot

end Says

/-! ### The options -/

section Options

variable {userName stdin : Text} {occurrences : List Occurrence} {run : Ec2Run}

variable {opt : OptValues} {values : LaunchValues userName}

/-- An option that holds a text makes an entry that sends it. -/
theorem sendsText_of_held (hopt : HoldOptions userName opt occurrences) {key : RequestKey}
    {option : OptionSpec} (hoption : key.option userName = some option) {bytes : Text}
    (hheld : held option occurrences = some (.text bytes)) :
    SendsText bytes (optionsRequest userName opt key) := by
  rw [optionsRequest_of_option hopt hoption, hheld]
  exact ⟨.str bytes, rfl, rfl⟩

/-- The count that a command line says: the text of it, or the default. -/
def countOf (occurrences : List Occurrence) (values : LaunchValues userName) : RequestValue :=
  if countOption.IsGiven occurrences then .string (.str (decimal values.count))
  else .number (.int values.count)

/-- The dictionary of a command line says its values. -/
theorem says_commandLine (hopt : HoldOptions userName opt occurrences)
    (hsaid : SaysOnCommandLine values occurrences stdin) :
    (withStdinUserData opt stdin (withZone (optionsRequest userName opt))).Says values
      (countOf occurrences values) := by
  have hkept {key : RequestKey} (hzone : key ≠ .availabilityZone) (hdata : key ≠ .userData) :
      withStdinUserData opt stdin (withZone (optionsRequest userName opt)) key =
        optionsRequest userName opt key := by
    rw [withStdinUserData_of_ne hdata, withZone_of_ne hzone]
  constructor
  case imageId =>
    rw [hkept (by decide) (by decide)]
    exact sendsText_of_held hopt rfl hsaid.imageId
  case count =>
    rw [hkept (by decide) (by decide), optionsRequest_of_option hopt rfl, countOf]
    rcases hsaid.count with hgiven | ⟨hgiven, hone⟩
    · rw [if_pos (given_isSome_iff.mp (by rw [hgiven]; rfl)), held, hgiven]
      rfl
    · have hnot : ¬ countOption.IsGiven occurrences := fun h ↦ by
        simpa [hgiven] using given_isSome_iff.mpr h
      rw [if_neg hnot, held, hgiven, hone]
      rfl
  case keyName =>
    rw [hkept (by decide) (by decide)]
    exact sendsText_of_held hopt rfl hsaid.keyName
  case zone =>
    have hentry : withStdinUserData opt stdin (withZone (optionsRequest userName opt))
        .availabilityZone = some (.ofOption (held availabilityZoneOption occurrences)) := by
      rw [withStdinUserData_of_ne (by decide), withZone_availabilityZone,
        optionsRequest_of_option hopt rfl, Option.some_or]
    rw [hentry, hsaid.zone]
    cases values.zone with
    | some zone => exact ⟨.str (utf8 zone), rfl, rfl⟩
    | none =>
      rintro entry ⟨⟩
      rfl
  case instanceType =>
    rw [hkept (by decide) (by decide)]
    exact sendsText_of_held hopt rfl hsaid.instanceType
  case securityGroups =>
    rw [hkept (by decide) (by decide), optionsRequest_of_option hopt rfl, hsaid.securityGroups]
    refine ⟨_, rfl, ?_⟩
    rw [List.map_map]
    exact List.map_id _
  case userData =>
    have huserData := hsaid.userData
    by_cases hstdin : stdinUserDataOption.IsGiven occurrences
    · rw [if_pos hstdin] at huserData
      have hjson : ¬ isSet opt stdinJsonOption = true :=
        mt (isSet_stdinJson hopt).mp hsaid.notDocument
      rw [withStdinUserData, if_pos ((isSet_stdinUserData hopt).mpr hstdin), if_neg hjson,
        Request.set_self, huserData]
      exact ⟨_, rfl, rfl⟩
    · rw [if_neg hstdin] at huserData
      rw [withStdinUserData, if_neg (mt (isSet_stdinUserData hopt).mp hstdin),
        withZone_of_ne (by decide)]
      exact sendsText_of_held hopt rfl huserData
  case useSpot =>
    rw [hkept (by decide) (by decide), optionsRequest_of_option hopt rfl, hsaid.useSpot]
    rfl

end Options

/-! ### Documents -/

section Documents

variable {userName stdin : Text} {values : LaunchValues userName} {document : Request}

/-- A document's entry of a text sends its bytes. -/
theorem HoldsText.sendsText {t : Text} {entry : Option RequestValue} (hholds : HoldsText t entry) :
    SendsText (utf8 t) entry := by
  obtain ⟨loaded, hentry, hloaded⟩ := hholds
  exact ⟨loaded, hentry, hloaded.bytes_eq⟩

/-- The names of the priced instance types are ASCII. -/
theorem isAscii_of_instanceCostOf {instanceType : Text} {cost : PyNumber}
    (hcost : instanceCostOf instanceType = .ok cost) : IsAscii instanceType := by
  have hnames : ∀ entry ∈ instanceCost, IsAscii entry.1 := by decide +kernel
  exact hnames _ (mem_instanceCost hcost)

/-- The dictionary of a document says its values. -/
theorem says_document (hsaid : SaysInDocument values document) :
    (withZone (document.set .userData (.string (.str (ofBytes values.userData))))).Says values
      (.number (.int values.count)) := by
  have hkept {key : RequestKey} (hzone : key ≠ .availabilityZone) (hdata : key ≠ .userData) :
      withZone (document.set .userData (.string (.str (ofBytes values.userData)))) key =
        document key := by
    rw [withZone_of_ne hzone, Request.set_of_ne hdata]
  constructor
  case imageId =>
    rw [hkept (by decide) (by decide)]
    exact hsaid.imageId.sendsText
  case count =>
    rw [hkept (by decide) (by decide)]
    exact hsaid.count
  case keyName =>
    rw [hkept (by decide) (by decide)]
    exact hsaid.keyName.sendsText
  case zone =>
    rw [withZone_availabilityZone, Request.set_of_ne (by decide), Request.set_of_ne (by decide)]
    have hzone := hsaid.zone
    cases hvalue : values.zone with
    | some zone =>
      rw [hvalue] at hzone
      exact HoldsText.sendsText hzone
    | none =>
      rw [hvalue] at hzone
      exact hzone
  case instanceType =>
    obtain ⟨cost, hcost⟩ := values.hasPrice
    have hsends := hsaid.instanceType.sendsText
    rw [utf8_of_ascii (isAscii_of_instanceCostOf hcost)] at hsends
    rw [hkept (by decide) (by decide)]
    exact hsends
  case securityGroups =>
    obtain ⟨loaded, hentry, hloaded⟩ := hsaid.securityGroups
    rw [hkept (by decide) (by decide)]
    exact ⟨loaded, hentry, map_bytes_of_loadedAs hloaded⟩
  case userData =>
    rw [withZone_of_ne (by decide), Request.set_self]
    exact ⟨_, rfl, rfl⟩
  case useSpot =>
    rw [hkept (by decide) (by decide)]
    exact hsaid.useSpot

end Documents

/-! ### The decisions -/

section Decisions

variable {run : Ec2Run} {values : LaunchValues run.user.userName} {words : List Text}
variable {occurrences : List Occurrence} {stdin : Text} {call : LaunchCall}

/-- A count that is a text is never accepted. -/
theorem runInstancesWith_text (oldCost : PyNumber) (count : Text) :
    runInstancesWith run.user.userName oldCost (values.info (.text count)) ≠ .ok call := by
  intro haccepted
  obtain ⟨-, -, number, -, -, -, hcount, -⟩ := runInstancesWith_accepted haccepted
  cases hcount

/-- A count that is a number is accepted when the costs stay within the limit. -/
theorem runInstancesWith_number :
    (∃ call, runInstancesWith run.user.userName run.oldCost
        (values.info (.number (.int values.count))) = .ok call) ↔
      run.oldCost.toRat + values.price * values.count ≤ spendLimit := by
  obtain ⟨cost, hcost⟩ := values.hasPrice
  have hprice : values.price = cost.toRat := by
    unfold instanceCostOf at hcost
    unfold LaunchValues.price
    cases hlookup : instanceCost.lookup values.instanceType with
    | none => simp [hlookup] at hcost
    | some entry =>
      rw [hlookup] at hcost
      cases hcost
      rfl
  constructor
  · rintro ⟨call, haccepted⟩
    obtain ⟨-, cost', count, -, -, hcost', hcount, hlimit, -⟩ := runInstancesWith_accepted haccepted
    obtain rfl : cost' = cost := by
      have hsame := hcost'.symm.trans hcost
      cases hsame
      rfl
    obtain rfl : PyNumber.int values.count = count := by
      cases hcount
      rfl
    rw [hprice]
    simpa using hlimit
  · intro hlimit
    obtain ⟨product, hproduct, hvalue⟩ := PyNumber.mul_number cost (.int values.count)
    have hextra : costProposal values.instanceType (.number (.int values.count)) =
        .ok (.number product) := by
      rw [costProposal, hcost]
      exact hproduct
    have hwithin : ¬ (run.oldCost.add product).toRat > spendLimit := by
      rw [PyNumber.toRat_add, hvalue, ← hprice]
      simpa using hlimit
    have hlaunch : ∃ call, launchCall (values.info (.number (.int values.count)))
        (utf8 values.keyName) = .ok call := by
      unfold launchCall
      cases hspot : values.useSpot with
      | true =>
        exact ⟨_, by rw [if_pos (by exact hspot)]; simp only [LaunchValues.info, hcost]; rfl⟩
      | false => exact ⟨_, if_neg (by simp [LaunchValues.info, hspot])⟩
    obtain ⟨call, hcall⟩ := hlaunch
    refine ⟨call, ?_⟩
    rw [runInstancesWith]
    change (costProposal values.instanceType (.number (.int values.count)) >>= fun _ ↦ _) = _
    rw [hextra]
    change (if (!run.user.userName.isPrefixOf (utf8 values.keyName)) = true then _ else _) = _
    rw [List.isPrefixOf_iff_prefix.mpr values.keyName_starts, if_neg (by simp)]
    change (if (run.oldCost.add product).toRat > spendLimit then _ else _) = _
    rw [if_neg hwithin]
    exact hcall

/-- A command line that says the values is accepted only without its count. -/
theorem ec2Run_commandLine_iff (hgiven : GivenAsOptions run values occurrences stdin words) :
    ec2Run run stdin words = .ok call ↔ run.user.accessKeys ≠ [] ∧
      ¬ countOption.IsGiven occurrences ∧ runInstancesWith run.user.userName run.oldCost
        (values.info (.number (.int values.count))) = .ok call := by
  have hopt := holdOptions_of_parse hgiven.parses
  have hrequest := @givenRequest_of_options stdin _ run _ hopt hgiven.gives.notDocument
  have hkey := checkKeyName_of_some
    ((optionsRequest_of_option hopt rfl).trans (by rw [hgiven.gives.keyName])) rfl
    values.keyName_starts
  have hdictionary := says_commandLine hopt hgiven.gives
  rw [ec2Run_of_parse hgiven.parses]
  by_cases hcount : countOption.IsGiven occurrences
  · have hreads := hdictionary.reads (by rw [countOf, if_pos hcount]; rfl)
    rw [runOptions_of_checked hrequest hkey hreads]
    exact iff_of_false (fun haccepted ↦ runInstancesWith_text _ _ haccepted.2)
      fun haccepted ↦ haccepted.2.1 hcount
  · have hreads := hdictionary.reads (by rw [countOf, if_neg hcount]; rfl)
    rw [runOptions_of_checked hrequest hkey hreads, and_iff_right hcount]

/-- A document that says the values is accepted only with a key name that is ASCII. -/
theorem ec2Run_document_iff (hgiven : GivenAsDocument run values stdin words) :
    ec2Run run stdin words = .ok call ↔ run.user.accessKeys ≠ [] ∧ IsAscii values.keyName ∧
      runInstancesWith run.user.userName run.oldCost
        (values.info (.number (.int values.count))) = .ok call := by
  obtain ⟨occurrences, document, hparse, hasks, hload, hsaid⟩ := hgiven
  obtain ⟨encoded, hencoded, hdata⟩ := hsaid.userData
  have hbase64 : IsAscii (Base64.encode values.userData) := fun c hc ↦ Base64.lt_of_mem_encode hc
  have hdecoded := documentRequest_of_encoded hload hencoded (hdata.toStr_of_ascii hbase64)
  obtain ⟨loaded, hentry, hloaded⟩ := hsaid.keyName
  by_cases hascii : IsAscii values.keyName
  · have hstarts := values.keyName_starts
    rw [utf8_of_ascii hascii] at hstarts
    rw [ec2Run_of_document hparse hasks hdecoded hentry (hloaded.toStr_of_ascii hascii) hstarts
      ((says_document hsaid).reads rfl), and_iff_right hascii]
  · obtain ⟨error, herror⟩ := hloaded.toStr_of_not_ascii hascii
    refine iff_of_false ?_ fun haccepted ↦ hascii haccepted.2.1
    exact ec2Run_document_refused hparse hasks hdecoded hentry herror

/-- The two command lines have the same call exactly when the user has no access keys, or the costs
exceed the limit, or the key name is ASCII and the count is left to its default, or neither. -/
theorem sameCall_iff {documentWords : List Text} {documentStdin : Text}
    (hoptions : GivenAsOptions run values occurrences stdin words)
    (hdocument : GivenAsDocument run values documentStdin documentWords) :
    (∀ call, ec2Run run stdin words = .ok call ↔
      ec2Run run documentStdin documentWords = .ok call) ↔
      run.user.accessKeys = [] ∨
        spendLimit < run.oldCost.toRat + values.price * values.count ∨
          (IsAscii values.keyName ↔ ¬ countOption.IsGiven occurrences) := by
  simp only [ec2Run_commandLine_iff hoptions, ec2Run_document_iff hdocument]
  by_cases hkeys : run.user.accessKeys = []
  · exact iff_of_true (fun call ↦ by simp [hkeys]) (.inl hkeys)
  by_cases hlimit : run.oldCost.toRat + values.price * values.count ≤ spendLimit
  · obtain ⟨call, hcall⟩ := runInstancesWith_number.mpr hlimit
    rw [or_iff_right hkeys, or_iff_right (not_lt.mpr hlimit)]
    constructor
    · intro hsame
      have hcalls := hsame call
      rw [and_iff_right hkeys, and_iff_right hkeys, and_iff_left hcall,
        and_iff_left hcall] at hcalls
      exact hcalls.symm
    · intro hsame call
      rw [hsame]
  · refine iff_of_true (fun call ↦ ?_) (.inr (.inl (not_le.mp hlimit)))
    have hrefused := mt (fun hcall ↦ runInstancesWith_number.mp ⟨call, hcall⟩) hlimit
    exact iff_of_false (fun haccepted ↦ hrefused haccepted.2.2)
      fun haccepted ↦ hrefused haccepted.2.2

end Decisions

/-! ### A request that is refused for its count -/

/-- One small instance for the user `aa`. -/
def sampleValues : LaunchValues "aa".toList where
  imageId := "ami-1".toList
  count := 1
  keyName := "aa-default".toList
  zone := none
  instanceType := "m1.small".toList
  securityGroups := ["g".toList]
  userData := [104, 105]
  useSpot := false
  count_pos := Nat.one_pos
  keyName_starts := by decide +kernel
  hasPrice := ⟨.int 1, by decide +kernel⟩

/-- The document of the request. -/
def sampleText : Text :=
  ("\x7b\"image_id\": \"ami-1\", \"count\": 1, \"key_name\": \"aa-default\", " ++
    "\"instance_type\": \"m1.small\", \"security_groups\": [\"g\"], \"user_data\": \"aGk=\", " ++
    "\"use_spot\": false\x7d").toList

/-- The document as it is loaded. -/
def sampleDocument : Request
  | .imageId => some (.string (.str "ami-1".toList))
  | .count => some (.number (.int 1))
  | .keyName => some (.string (.str "aa-default".toList))
  | .instanceType => some (.string (.str "m1.small".toList))
  | .securityGroups => some (.strings [.str "g".toList])
  | .userData => some (.string (.str "aGk=".toList))
  | .useSpot => some (.bool false)
  | .availabilityZone | .placementGroup | .placement => none

/-- Loading the document. -/
def sampleLoad (text : Text) : Except PyError Request :=
  if text = sampleText then .ok sampleDocument
  else .error (.library "JSONDecodeError".toList "Expecting value".toList)

/-- A user with an access key and no running instances. -/
def aaRun : Ec2Run where
  user := ⟨"aa".toList, [⟨"AKIA1".toList, "secret".toList⟩]⟩
  oldCost := .int 0
  load := sampleLoad

theorem load_sampleText : aaRun.load sampleText = .ok sampleDocument := by
  simp only [aaRun, sampleLoad, if_true]

/-- The options of the request but for its count. -/
def sampleWords : List Text :=
  ["-a".toList, "ami-1".toList, "-t".toList, "m1.small".toList, "--user-data=hi".toList,
    "--security-group".toList, "g".toList]

/-- What the options give. -/
def sampleOccurrences : List Occurrence :=
  [⟨amiOption, "ami-1".toList⟩, ⟨instanceTypeOption, "m1.small".toList⟩,
    ⟨userDataOption, "hi".toList⟩, ⟨securityGroupOption, "g".toList⟩]

theorem sampleDocument_says : GivenAsDocument aaRun sampleValues sampleText
    ["--stdin-json".toList] := by
  refine ⟨[⟨stdinJsonOption, []⟩], sampleDocument, parseArgs_stdinJson _, ?_, load_sampleText, ?_⟩
  · exact ⟨by decide +kernel, by decide +kernel⟩
  · have hstr {t : Text} (hascii : IsAscii t) : HoldsText t (some (.string (.str t))) :=
      ⟨_, rfl, .str hascii⟩
    exact
      { imageId := hstr (by decide +kernel)
        count := rfl
        keyName := hstr (by decide +kernel)
        zone := by rintro entry ⟨⟩
        instanceType := hstr (by decide +kernel)
        securityGroups := ⟨_, rfl, .cons (.str (by decide +kernel)) .nil⟩
        userData := hstr (by decide +kernel)
        useSpot := rfl }

theorem sampleWords_say : GivenAsOptions aaRun sampleValues sampleOccurrences [] sampleWords where
  parses := ok_of_toOption (by decide +kernel)
  gives :=
    { imageId := by decide +kernel
      count := .inr ⟨by decide +kernel, rfl⟩
      keyName := by decide +kernel
      zone := by decide +kernel
      instanceType := by decide +kernel
      securityGroups := by decide +kernel
      userData := by decide +kernel
      useSpot := by decide +kernel
      notDocument := by decide +kernel }

theorem sameCall_iff_sample :
    (∀ call, ec2Run aaRun [] sampleWords = .ok call ↔
      ec2Run aaRun sampleText ["--stdin-json".toList] = .ok call) ↔
      aaRun.user.accessKeys = [] ∨
        spendLimit < aaRun.oldCost.toRat + sampleValues.price * sampleValues.count ∨
          (IsAscii sampleValues.keyName ↔ ¬ countOption.IsGiven sampleOccurrences) :=
  sameCall_iff sampleWords_say sampleDocument_says

/-- The request with its count given as well. -/
theorem sampleWords_say_count : GivenAsOptions aaRun sampleValues
    (sampleOccurrences ++ [⟨countOption, "1".toList⟩]) []
    (sampleWords ++ ["-c".toList, "1".toList]) where
  parses := ok_of_toOption (by decide +kernel)
  gives :=
    { imageId := by decide +kernel
      count := .inl (by decide +kernel)
      keyName := by decide +kernel
      zone := by decide +kernel
      instanceType := by decide +kernel
      securityGroups := by decide +kernel
      userData := by decide +kernel
      useSpot := by decide +kernel
      notDocument := by decide +kernel }

/-- With `-c 1` the command line is refused, although its document is accepted. -/
theorem countText_refused :
    GivenAsOptions aaRun sampleValues (sampleOccurrences ++ [⟨countOption, "1".toList⟩]) []
        (sampleWords ++ ["-c".toList, "1".toList]) ∧
      GivenAsDocument aaRun sampleValues sampleText ["--stdin-json".toList] ∧
      ¬ ∀ call, ec2Run aaRun [] (sampleWords ++ ["-c".toList, "1".toList]) = .ok call ↔
        ec2Run aaRun sampleText ["--stdin-json".toList] = .ok call := by
  refine ⟨sampleWords_say_count, sampleDocument_says, fun hsame ↦ ?_⟩
  obtain ⟨call, hcall⟩ := (@runInstancesWith_number aaRun sampleValues).mpr (by decide +kernel)
  have haccepted := (ec2Run_document_iff sampleDocument_says).mpr
    ⟨by decide +kernel, by decide +kernel, hcall⟩
  have hrefused := (ec2Run_commandLine_iff sampleWords_say_count).mp ((hsame call).mpr haccepted)
  exact hrefused.2.1 (by decide +kernel)

end Ec2Wrappers.Subaccounts
