import Ec2Wrappers.Aws.RequestSigning
import Ec2Wrappers.Subaccounts.Quota

/-!
# Launches as EC2 reads them

`EC2Connection.run_instances` and `request_spot_instances` of the vendored boto, for the arguments
that `User.run_instances` passes, up to the signed request. boto leaves the key name, the user data,
the type, the zone and the count of a spot request out where they are empty; the image and the
counts of a launch on demand are always sent, `None` as its name. `str` of a float is a parameter.

`launchForm_reads_back` says what EC2 reads from the signed form: the fields of the call, the
security groups in their order although the form has them in the order of their names, and the user
data byte for byte. A field that boto leaves out reads as missing; of the counts of a spot request
that is the count zero.
-/

set_option autoImplicit false
set_option relaxedAutoImplicit false

namespace Ec2Wrappers.Subaccounts

open Foundations Aws

/-! ### The fields of a launch -/

/-- The parameters of the two calls. -/
inductive LaunchField
  | imageId
  | minCount
  | maxCount
  | spotPrice
  | requestType
  | instanceCount
  | keyName
  | userData
  | instanceType
  | placement
  | securityGroup (index : ℕ)
  deriving DecidableEq, Repr

/-- Where the names of a launch specification start. -/
def specificationStart (spot : Bool) : Text :=
  if spot then "LaunchSpecification.".toList else []

/-- The label of the security groups. -/
def groupLabel (spot : Bool) : Text := specificationStart spot ++ "SecurityGroup".toList

/-- The name of a parameter, in a spot request or in a launch on demand. -/
def LaunchField.name (spot : Bool) : LaunchField → Text
  | imageId => specificationStart spot ++ "ImageId".toList
  | minCount => "MinCount".toList
  | maxCount => "MaxCount".toList
  | spotPrice => "SpotPrice".toList
  | requestType => "Type".toList
  | instanceCount => "InstanceCount".toList
  | keyName => specificationStart spot ++ "KeyName".toList
  | userData => specificationStart spot ++ "UserData".toList
  | instanceType => specificationStart spot ++ "InstanceType".toList
  | placement => specificationStart spot ++ "Placement.AvailabilityZone".toList
  | securityGroup index => numbered (groupLabel spot) index

/-- `params[name] = value`, for a field. -/
def setField (spot : Bool) (params : Params) (field : LaunchField) (value : ParamValue) : Params :=
  setParam params (field.name spot) value

/-- The same where the value is not empty. -/
def setText (spot : Bool) (params : Params) (field : LaunchField) (text : Text) : Params :=
  if text = [] then params else setField spot params field (strValue text)

/-- `build_list_params` of the security groups, from an index on. -/
def buildListParams (spot : Bool) (params : Params) : ℕ → List Text → Params
  | _, [] => params
  | index, group :: rest =>
    buildListParams spot (setField spot params (.securityGroup index) (strValue group)) (index + 1)
      rest

/-- The bytes of a `str`. -/
def toBytes (text : Text) : List UInt8 := text.map fun c ↦ UInt8.ofNat c.toNat

/-- A text that is not empty. -/
def given (text : Text) : Option Text := if text = [] then none else some text

/-- The user data, in base64. -/
def setUserData (spot : Bool) (params : Params) (userData : Option Text) : Params :=
  match userData.bind given with
  | none => params
  | some data => setField spot params .userData (strValue (Base64.encode (toBytes data)))

/-- What the two calls do alike with their arguments from the key name on. -/
def setSpecification (spot : Bool) (params : Params) (keyName : Text) (securityGroups : List Text)
    (userData : Option Text) (instanceType : Text) (placement : Option Text) : Params :=
  let params := setText spot params .keyName keyName
  let params := buildListParams spot params 1 securityGroups
  let params := setUserData spot params userData
  let params := setText spot params .instanceType instanceType
  setText spot params .placement (placement.getD [])

/-- The value of an image id. -/
def imageValue : Option Text → ParamValue
  | some imageId => strValue imageId
  | none => .shown "None".toList

/-- The value of a count, with `str` of a float. -/
def countValue (showFloat : ℚ → Text) : PyValue → ParamValue
  | .number (.int count) => .int count
  | .number (.float count) => .shown (showFloat count)
  | .text text => strValue text
  | .none => .shown "None".toList

/-- The truth of a count. -/
def countGiven : PyValue → Bool
  | .number count => count.toRat ≠ 0
  | .text text => text ≠ []
  | .none => false

/-- The count of a spot request, where it is true. -/
def setCount (showFloat : ℚ → Text) (params : Params) (count : PyValue) : Params :=
  if countGiven count then setField true params .instanceCount (countValue showFloat count)
  else params

/-- The parameters of a call: `run_instances` and `request_spot_instances`. -/
def launchParams (showFloat : ℚ → Text) : LaunchCall → Params
  | .runInstances imageId minCount maxCount keyName groups userData instanceType placement =>
    let params := setField false Table.empty .imageId (imageValue imageId)
    let params := setField false params .minCount (countValue showFloat minCount)
    let params := setField false params .maxCount (countValue showFloat maxCount)
    setSpecification false params keyName groups userData instanceType placement
  | .requestSpotInstances price imageId count keyName groups userData instanceType placement =>
    let params := setField true Table.empty .imageId (imageValue imageId)
    let params := setField true params .requestType (strValue "one-time".toList)
    let params := setField true params .spotPrice (.shown (showFloat price))
    let params := setCount showFloat params count
    setSpecification true params keyName groups userData instanceType placement

/-- A call for a spot request. -/
def isSpotCall : LaunchCall → Bool
  | .runInstances .. => false
  | .requestSpotInstances .. => true

/-- The request of a call, before it is signed. -/
def launchRequest (showFloat : ℚ → Text) (host : Text) (port : ℕ) (apiVersion : Text)
    (call : LaunchCall) : HttpRequest :=
  queryRequest host port apiVersion
    (if isSpotCall call then "RequestSpotInstances".toList else "RunInstances".toList)
    "POST".toList (launchParams showFloat call)

/-! ### What EC2 reads -/

/-- A launch as it is read from a form. -/
structure LaunchForm where
  imageId : Option Text
  minCount : Option Text
  maxCount : Option Text
  spotPrice : Option Text
  requestType : Option Text
  instanceCount : Option Text
  keyName : Option Text
  securityGroups : List Text
  userData : Option (List UInt8)
  instanceType : Option Text
  placement : Option Text
  deriving DecidableEq, Repr

/-- Read a launch from the names and the values of a form. -/
def readLaunch (spot : Bool) (read : List (Text × Text)) : LaunchForm :=
  let value? (field : LaunchField) : Option Text := read.lookup (field.name spot)
  { imageId := value? .imageId
    minCount := value? .minCount
    maxCount := value? .maxCount
    spotPrice := value? .spotPrice
    requestType := value? .requestType
    instanceCount := value? .instanceCount
    keyName := value? .keyName
    securityGroups := readNumbered (fun name ↦ read.lookup name) (groupLabel spot) read.length 1
    userData := (value? .userData).bind Base64.decode
    instanceType := value? .instanceType
    placement := value? .placement }

/-- The form of a call: what EC2 is to read. -/
def formOf (showFloat : ℚ → Text) : LaunchCall → LaunchForm
  | .runInstances imageId minCount maxCount keyName groups userData instanceType placement =>
    { imageId := some (imageValue imageId).utf8
      minCount := some (countValue showFloat minCount).utf8
      maxCount := some (countValue showFloat maxCount).utf8
      spotPrice := none
      requestType := none
      instanceCount := none
      keyName := given keyName
      securityGroups := groups
      userData := (userData.bind given).map toBytes
      instanceType := given instanceType
      placement := placement.bind given }
  | .requestSpotInstances price imageId count keyName groups userData instanceType placement =>
    { imageId := some (imageValue imageId).utf8
      minCount := none
      maxCount := none
      spotPrice := some (showFloat price)
      requestType := some "one-time".toList
      instanceCount := if countGiven count then some (countValue showFloat count).utf8 else none
      keyName := given keyName
      securityGroups := groups
      userData := (userData.bind given).map toBytes
      instanceType := given instanceType
      placement := placement.bind given }

/-! ### Names -/

/-- The fields other than the security groups. -/
def plainFields : List LaunchField :=
  [.imageId, .minCount, .maxCount, .spotPrice, .requestType, .instanceCount, .keyName, .userData,
    .instanceType, .placement]

theorem field_cases (field : LaunchField) :
    field ∈ plainFields ∨ ∃ index, field = .securityGroup index := by
  cases field with
  | securityGroup index => exact .inr ⟨index, rfl⟩
  | _ => exact .inl (by decide)

/-- The names that a request gets after its parameters. -/
def addedNames : List Text :=
  "Action".toList :: "Version".toList :: "Signature".toList :: authNames

theorem nodup_plainNames (spot : Bool) : (plainFields.map (LaunchField.name spot)).Nodup := by
  cases spot <;> decide +kernel

theorem plainName_not_added (spot : Bool) :
    ∀ field ∈ plainFields, field.name spot ∉ addedNames := by
  cases spot <;> decide +kernel

/-- The label of the security groups starts no other name. -/
theorem groupLabel_starts_none (spot : Bool) :
    ∀ name ∈ plainFields.map (LaunchField.name spot) ++ addedNames,
      (groupLabel spot).isPrefixOf name = false := by
  cases spot <;> decide +kernel

theorem groupName_ne {spot : Bool} {name : Text}
    (hname : name ∈ plainFields.map (LaunchField.name spot) ++ addedNames) (index : ℕ) :
    (LaunchField.securityGroup index).name spot ≠ name := by
  rintro rfl
  have hstarts := List.isPrefixOf_iff_prefix.mpr (prefix_numbered (groupLabel spot) index)
  exact Bool.false_ne_true ((groupLabel_starts_none spot _ hname).symm.trans hstarts)

/-- Different fields have different names. -/
theorem name_injective (spot : Bool) : Function.Injective (LaunchField.name spot) := by
  intro first second hsame
  rcases field_cases first with hfirst | ⟨index, rfl⟩
  · rcases field_cases second with hsecond | ⟨other, rfl⟩
    · exact List.inj_on_of_nodup_map (nodup_plainNames spot) hfirst hsecond hsame
    · exact absurd hsame.symm
        (groupName_ne (List.mem_append_left _ (List.mem_map_of_mem hfirst)) other)
  · rcases field_cases second with hsecond | ⟨other, rfl⟩
    · exact absurd hsame
        (groupName_ne (List.mem_append_left _ (List.mem_map_of_mem hsecond)) index)
    · rw [numbered_injective (groupLabel spot) hsame]

/-- No field has a name that the signing adds. -/
theorem name_not_added (spot : Bool) (field : LaunchField) : field.name spot ∉ addedNames := by
  rcases field_cases field with hfield | ⟨index, rfl⟩
  · exact plainName_not_added spot field hfield
  · exact fun hadded ↦ groupName_ne (List.mem_append_right _ hadded) index rfl

/-! ### The values of the fields -/

/-- The value that is sent for a field. -/
def fieldValue (spot : Bool) (params : Params) (field : LaunchField) : Option Text :=
  (params.find (field.name spot)).map fun param ↦ param.value.utf8

theorem given_getD (text : Option Text) : given (text.getD []) = text.bind given := by
  cases text with
  | none => rfl
  | some text => rfl

section Values

variable {spot : Bool} {params : Params} {field other : LaunchField}

theorem fieldValue_setField (value : ParamValue) :
    fieldValue spot (setField spot params field value) other =
      if other = field then some value.utf8 else fieldValue spot params other := by
  rw [fieldValue, setField, setParam, Table.find_insertOrReplace]
  simp only [(name_injective spot).eq_iff]
  split_ifs with hsame
  · rfl
  · rfl

theorem fieldValue_setText (text : Text) :
    fieldValue spot (setText spot params field text) other =
      if other = field then (given text).or (fieldValue spot params other)
      else fieldValue spot params other := by
  unfold setText given
  split_ifs with hempty hsame hsame
  · rfl
  · rfl
  · rw [fieldValue_setField, if_pos hsame]
    rfl
  · rw [fieldValue_setField, if_neg hsame]

theorem fieldValue_setUserData (userData : Option Text) :
    fieldValue spot (setUserData spot params userData) other =
      if other = .userData then
        ((userData.bind given).map fun data ↦ Base64.encode (toBytes data)).or
          (fieldValue spot params other)
      else fieldValue spot params other := by
  unfold setUserData
  split
  · next hnone =>
    rw [hnone]
    split_ifs <;> rfl
  · next data hsome =>
    rw [hsome, fieldValue_setField]
    split_ifs <;> rfl

/-- The groups leave the other fields alone. -/
theorem fieldValue_buildListParams_other (hother : ∀ index, other ≠ .securityGroup index)
    (start : ℕ) (groups : List Text) :
    fieldValue spot (buildListParams spot params start groups) other =
      fieldValue spot params other := by
  induction groups generalizing params start with
  | nil => rfl
  | cons group rest ih =>
    rw [buildListParams, ih, fieldValue_setField, if_neg (hother start)]

/-- The groups before an index are left alone. -/
theorem fieldValue_buildListParams_before {start index : ℕ} (hindex : index < start)
    (groups : List Text) :
    fieldValue spot (buildListParams spot params start groups) (.securityGroup index) =
      fieldValue spot params (.securityGroup index) := by
  induction groups generalizing params start with
  | nil => rfl
  | cons group rest ih =>
    rw [buildListParams, ih (Nat.lt_succ_of_lt hindex), fieldValue_setField, if_neg]
    simpa using hindex.ne

/-- A group is sent under its number. -/
theorem fieldValue_buildListParams (start offset : ℕ) (groups : List Text) :
    fieldValue spot (buildListParams spot params start groups) (.securityGroup (start + offset)) =
      groups[offset]?.or (fieldValue spot params (.securityGroup (start + offset))) := by
  induction groups generalizing params start offset with
  | nil => simp [buildListParams]
  | cons group rest ih =>
    rw [buildListParams]
    cases offset with
    | zero =>
      have hindex : start + 0 = start := Nat.add_zero start
      rw [hindex, fieldValue_buildListParams_before (Nat.lt_add_one start), fieldValue_setField,
        if_pos rfl]
      rfl
    | succ offset =>
      have hlater : LaunchField.securityGroup (start + 1 + offset) ≠ .securityGroup start := by
        simp only [ne_eq, LaunchField.securityGroup.injEq]
        omega
      have hindex : start + (offset + 1) = start + 1 + offset := by omega
      rw [hindex, ih, fieldValue_setField, if_neg hlater, List.getElem?_cons_succ]

/-- What a specification adds to parameters that have none of its fields. -/
theorem fieldValue_setSpecification {keyName instanceType : Text} {groups : List Text}
    {userData placement : Option Text}
    (hfree : ∀ field ∈ [LaunchField.keyName, .userData, .instanceType, .placement],
      fieldValue spot params field = none)
    (hgroups : ∀ index, fieldValue spot params (.securityGroup index) = none) :
    fieldValue spot (setSpecification spot params keyName groups userData instanceType placement)
        other = match other with
      | .keyName => given keyName
      | .userData => (userData.bind given).map fun data ↦ Base64.encode (toBytes data)
      | .instanceType => given instanceType
      | .placement => placement.bind given
      | .securityGroup index => if index = 0 then none else groups[index - 1]?
      | _ => fieldValue spot params other := by
  simp only [List.forall_mem_cons] at hfree
  simp only [setSpecification, fieldValue_setText, fieldValue_setUserData, given_getD]
  cases other with
  | securityGroup index =>
    simp only [reduceCtorEq, if_false]
    cases index with
    | zero =>
      rw [fieldValue_buildListParams_before (by decide), fieldValue_setText]
      simp [hgroups]
    | succ index =>
      rw [Nat.add_comm, fieldValue_buildListParams, fieldValue_setText]
      simp [hgroups]
  | _ =>
    simp only [reduceCtorEq, if_false, if_true]
    rw [fieldValue_buildListParams_other (by simp), fieldValue_setText]
    simp [hfree]

theorem fieldValue_empty : fieldValue spot Table.empty other = none := rfl

theorem fieldValue_setCount (showFloat : ℚ → Text) (count : PyValue) :
    fieldValue true (setCount showFloat params count) other =
      if other = .instanceCount then
        (if countGiven count then some (countValue showFloat count).utf8 else none).or
          (fieldValue true params other)
      else fieldValue true params other := by
  unfold setCount
  split_ifs with hcount hsame hsame
  · rw [fieldValue_setField, if_pos hsame]
    rfl
  · rw [fieldValue_setField, if_neg hsame]
  · rfl
  · rfl

/-- The values of a launch on demand. -/
theorem fieldValue_runInstances (showFloat : ℚ → Text) (imageId : Option Text)
    (minCount maxCount : PyValue) (keyName : Text) (groups : List Text) (userData : Option Text)
    (instanceType : Text) (placement : Option Text) :
    fieldValue false (launchParams showFloat (.runInstances imageId minCount maxCount keyName groups
      userData instanceType placement)) other = match other with
      | .imageId => some (imageValue imageId).utf8
      | .minCount => some (countValue showFloat minCount).utf8
      | .maxCount => some (countValue showFloat maxCount).utf8
      | .spotPrice | .requestType | .instanceCount => none
      | .keyName => given keyName
      | .userData => (userData.bind given).map fun data ↦ Base64.encode (toBytes data)
      | .instanceType => given instanceType
      | .placement => placement.bind given
      | .securityGroup index => if index = 0 then none else groups[index - 1]? := by
  rw [launchParams, fieldValue_setSpecification]
  · cases other <;> simp [fieldValue_setField, fieldValue_empty]
  · simp [fieldValue_setField, fieldValue_empty]
  · simp [fieldValue_setField, fieldValue_empty]

/-- The values of a spot request. -/
theorem fieldValue_requestSpotInstances (showFloat : ℚ → Text) (price : ℚ) (imageId : Option Text)
    (count : PyValue) (keyName : Text) (groups : List Text) (userData : Option Text)
    (instanceType : Text) (placement : Option Text) :
    fieldValue true (launchParams showFloat (.requestSpotInstances price imageId count keyName
      groups userData instanceType placement)) other = match other with
      | .imageId => some (imageValue imageId).utf8
      | .minCount | .maxCount => none
      | .spotPrice => some (showFloat price)
      | .requestType => some "one-time".toList
      | .instanceCount =>
        if countGiven count then some (countValue showFloat count).utf8 else none
      | .keyName => given keyName
      | .userData => (userData.bind given).map fun data ↦ Base64.encode (toBytes data)
      | .instanceType => given instanceType
      | .placement => placement.bind given
      | .securityGroup index => if index = 0 then none else groups[index - 1]? := by
  have htype (text : Text) : (strValue text).utf8 = text := rfl
  have hprice : (ParamValue.shown (showFloat price)).utf8 = showFloat price := rfl
  rw [launchParams, fieldValue_setSpecification]
  · cases other <;>
      simp [fieldValue_setCount, fieldValue_setField, fieldValue_empty, htype, hprice]
  · simp [fieldValue_setCount, fieldValue_setField, fieldValue_empty]
  · simp [fieldValue_setCount, fieldValue_setField, fieldValue_empty]

end Values

/-! ### Reading the form -/

/-- A form has at least as many values as groups. -/
theorem length_le_of_groups {read : List (Text × Text)} {label : Text} {groups : List Text}
    (hgroups : ∀ offset, read.lookup (numbered label (1 + offset)) = groups[offset]?) :
    groups.length ≤ read.length := by
  have hnodup : ((List.range groups.length).map
      fun offset ↦ numbered label (1 + offset)).Nodup := by
    refine List.nodup_range.map fun first second hsame ↦ ?_
    exact Nat.add_left_cancel (numbered_injective label hsame)
  have hmem : ((List.range groups.length).map fun offset ↦ numbered label (1 + offset)) ⊆
      read.map Prod.fst := by
    intro name hname
    obtain ⟨offset, hoffset, rfl⟩ := List.mem_map.mp hname
    have hfound := hgroups offset
    rw [List.getElem?_eq_getElem (List.mem_range.mp hoffset)] at hfound
    obtain ⟨before, after, hsplit, -⟩ := List.lookup_eq_some_iff.mp hfound
    rw [hsplit]
    simp
  simpa using (hnodup.subperm hmem).length_le

/-- A launch is read from its values. -/
theorem readLaunch_eq {spot : Bool} {read : List (Text × Text)} {values : LaunchField → Option Text}
    (hvalues : ∀ field, read.lookup (field.name spot) = values field) (groups : List Text)
    (hgroups : ∀ offset, values (.securityGroup (1 + offset)) = groups[offset]?) :
    readLaunch spot read =
      { imageId := values .imageId
        minCount := values .minCount
        maxCount := values .maxCount
        spotPrice := values .spotPrice
        requestType := values .requestType
        instanceCount := values .instanceCount
        keyName := values .keyName
        securityGroups := groups
        userData := (values .userData).bind Base64.decode
        instanceType := values .instanceType
        placement := values .placement } := by
  have hread (offset : ℕ) :
      read.lookup (numbered (groupLabel spot) (1 + offset)) = groups[offset]? :=
    (hvalues (.securityGroup (1 + offset))).trans (hgroups offset)
  have hlist : readNumbered (fun name ↦ read.lookup name) (groupLabel spot) read.length 1 =
      groups := readNumbered_eq (length_le_of_groups hread) hread
  simp only [readLaunch, hvalues, hlist]

/-- The user data is read back. -/
theorem decode_userData (userData : Option Text) :
    (userData.map fun data ↦ Base64.encode (toBytes data)).bind Base64.decode =
      userData.map toBytes := by
  cases userData with
  | none => rfl
  | some data => exact Base64.decode_encode (toBytes data)

section Reading

variable {showFloat : ℚ → Text} {host apiVersion timestamp : Text} {port : ℕ} {call : LaunchCall}
  {signer : Signer}

/-- What EC2 reads of a call that has been signed. -/
def readForm (hidesPort : Bool) (signer : Signer) (timestamp : Text) (request : HttpRequest) :
    List (Text × Text) :=
  readQuery unquotePlus (sentQuery (addAuth hidesPort signer timestamp request))

/-- The fields are sent with the values they have in the call. -/
theorem find_signedParams (field : LaunchField) :
    ((signedParams signer timestamp
      (launchRequest showFloat host port apiVersion call).params).find
        (field.name (isSpotCall call))).map (fun param ↦ param.value.utf8) =
          fieldValue (isSpotCall call) (launchParams showFloat call) field := by
  have hname := name_not_added (isSpotCall call) field
  have hother (added : Text) (hadded : added ∈ addedNames) :
      field.name (isSpotCall call) ≠ added := fun hsame ↦ hname (hsame ▸ hadded)
  have hauth : field.name (isSpotCall call) ∉ authNames := by
    intro hmem
    exact hname (List.mem_cons_of_mem _ (List.mem_cons_of_mem _ (List.mem_cons_of_mem _ hmem)))
  rw [find_signedParams_of_not_mem signer timestamp _ hauth, launchRequest, queryRequest,
    find_setParam_of_ne (hother _ (by decide)), find_setParam_of_ne (hother _ (by decide)),
    fieldValue]

/-- What is read of a field is the value that it has in the call. -/
theorem lookup_readForm (hidesPort : Bool)
    (hbytes : BytesOnly signer timestamp (launchRequest showFloat host port apiVersion call))
    (field : LaunchField) :
    (readForm hidesPort signer timestamp
      (launchRequest showFloat host port apiVersion call)).lookup (field.name (isSpotCall call)) =
        fieldValue (isSpotCall call) (launchParams showFloat call) field := by
  have hpath : '?' ∉ (launchRequest showFloat host port apiVersion call).path := by
    change '?' ∉ ['/']
    decide
  have hsignature : (field.name (isSpotCall call) == "Signature".toList) = false := by
    refine beq_eq_false_iff_ne.mpr fun hsame ↦ name_not_added (isSpotCall call) field ?_
    rw [hsame]
    decide
  rw [readForm, readQuery_sentQuery hidesPort hbytes hpath, List.lookup_append, lookup_sentPairs,
    find_signedParams, List.lookup_cons, hsignature]
  simp

/-- EC2 reads from the signed request the launch that the call asks for. -/
theorem launchForm_reads_back (hidesPort : Bool)
    (hbytes : BytesOnly signer timestamp (launchRequest showFloat host port apiVersion call)) :
    readLaunch (isSpotCall call) (readForm hidesPort signer timestamp
      (launchRequest showFloat host port apiVersion call)) = formOf showFloat call := by
  have hread := lookup_readForm hidesPort hbytes
  cases call with
  | runInstances imageId minCount maxCount keyName groups userData instanceType placement =>
    rw [readLaunch_eq hread groups]
    · simp only [isSpotCall, fieldValue_runInstances, decode_userData, formOf]
    · intro offset
      rw [isSpotCall, fieldValue_runInstances]
      simp
  | requestSpotInstances price imageId count keyName groups userData instanceType placement =>
    rw [readLaunch_eq hread groups]
    · simp only [isSpotCall, fieldValue_requestSpotInstances, decode_userData, formOf]
    · intro offset
      rw [isSpotCall, fieldValue_requestSpotInstances]
      simp

end Reading

/-- A spot request with ten security groups. -/
def tenGroupsCall : LaunchCall :=
  .requestSpotInstances (1 / 2) (some "ami-1".toList) (.number (.int 2)) "cs61c-aa".toList
    (["a", "b", "c", "d", "e", "f", "g", "h", "i", "j & k"].map String.toList)
    (some "#!/bin/sh\n".toList) "m1.large".toList none

/-- The request of this call. -/
def tenGroupsRequest : HttpRequest :=
  launchRequest (fun _ ↦ "0.5".toList) "ec2.amazonaws.com".toList 443 "2011-05-15".toList
    tenGroupsCall

theorem launchForm_reads_back_tenGroups :
    readLaunch true (readForm true plainSigner "2011-10-01T12:00:00".toList tenGroupsRequest) =
      formOf (fun _ ↦ "0.5".toList) tenGroupsCall := by
  have hbytes : BytesOnly plainSigner "2011-10-01T12:00:00".toList tenGroupsRequest :=
    { params := by decide +kernel
      accessKey := by decide
      time := by decide }
  exact launchForm_reads_back true hbytes

end Ec2Wrappers.Subaccounts
