import Ec2Wrappers.Foundations.Python
import Mathlib.Data.Rat.Defs

/-!
# What boto delivers from EC2

The objects of the vendored boto, with the attributes the wrappers read, and the three Describe
calls. A moment is an exact Julian day number.

`Instance`, `Reservation` and `InstanceGroup` are the classes `Instance`, `Reservation` and `Group`
of `boto/ec2/instance.py`, `LaunchSpecification` and `SpotInstanceRequest` those of the modules of
those names, and `Volume` that of `boto/ec2/volume.py`. `Group` is an old-style class with no
comparison method, so Python's `==` between a text and a group falls back to identity
(`InstanceGroup.eqText`). `Volume.endElement` stores the `availabilityZone` element under `zone` and
`attachTime` goes to the attachment, so reading `availabilityZone` or `attach_time` of a `Volume` is
an `AttributeError` (`Volume.availabilityZone`, `Volume.attachTime`).

`getAllInstances` is `get_all_instances` with an optional filter `{'key-name': prefix + '*'}`, which
EC2 reads as a prefix of the key name; an instance launched with no key does not match it.
`getAllVolumes` is `get_all_volumes`: boto adds no id parameter for an empty list, and EC2 then
returns every volume of the account.
-/

set_option autoImplicit false
set_option relaxedAutoImplicit false

namespace Ec2Wrappers.Aws

open Foundations

/-- The states of an instance. -/
inductive InstanceState
  | pending
  | running
  | stopping
  | stopped
  | shuttingDown
  | terminated
  deriving DecidableEq, Repr

/-- A security group of a reservation or a launch specification, its name in the `id` field. -/
structure InstanceGroup where
  id : Text
  deriving DecidableEq, Repr

/-- `text == group` in Python: `InstanceGroup` defines no comparison, so no text equals a group. -/
def InstanceGroup.eqText (_ : InstanceGroup) (_ : Text) : Bool := false

/-- An instance; `keyName` is none for an instance launched with no key. -/
structure Instance where
  id : Text
  instanceType : Text
  keyName : Option Text
  state : InstanceState
  launchTime : ℚ
  spotInstanceRequestId : Option Text
  deriving DecidableEq, Repr

/-- A reservation: the groups and the instances of one launch. -/
structure Reservation where
  groups : List InstanceGroup
  instances : List Instance
  deriving DecidableEq, Repr

/-- The states of a spot request; `opened` is EC2's `open`. -/
inductive SpotState
  | opened
  | active
  | closed
  | cancelled
  | failed
  deriving DecidableEq, Repr

/-- The launch specification of a spot request. -/
structure LaunchSpecification where
  keyName : Option Text
  instanceType : Text
  groups : List InstanceGroup
  deriving DecidableEq, Repr

/-- A spot request. -/
structure SpotInstanceRequest where
  id : Text
  state : SpotState
  createTime : ℚ
  launchSpecification : LaunchSpecification
  deriving DecidableEq, Repr

/-- The states of a volume. -/
inductive VolumeStatus
  | creating
  | available
  | inUse
  | deleting
  | error
  deriving DecidableEq, Repr

/-- A volume; `attachedTo` is the instance id of its attachment record. -/
structure Volume where
  id : Text
  status : VolumeStatus
  size : ℕ
  snapshotId : Option Text
  zone : Text
  attachedTo : Option Text
  deriving DecidableEq, Repr

/-- `volume.availabilityZone`: boto's `Volume` has no such attribute. -/
def Volume.availabilityZone (_ : Volume) : Except PyError Text :=
  .error (.attributeError "availabilityZone".toList)

/-- `volume.attach_time`: boto's `Volume` has no such attribute. -/
def Volume.attachTime (_ : Volume) : Except PyError Text :=
  .error (.attributeError "attach_time".toList)

/-! ### Listings -/

/-- The instances of a list of reservations, in order. -/
def instancesOf (reservations : List Reservation) : List Instance :=
  reservations.flatMap Reservation.instances

@[simp] theorem instancesOf_nil : instancesOf [] = [] := rfl

@[simp] theorem instancesOf_append (first second : List Reservation) :
    instancesOf (first ++ second) = instancesOf first ++ instancesOf second := by
  simp [instancesOf]

@[simp] theorem instancesOf_cons (reservation : Reservation) (rest : List Reservation) :
    instancesOf (reservation :: rest) = reservation.instances ++ instancesOf rest := by
  simp [instancesOf]

/-- The key name of an instance starts with the given text; false for an instance with no key. -/
def Instance.keyStartsWith (instance_ : Instance) (start : Text) : Bool :=
  match instance_.keyName with
  | some key => start.isPrefixOf key
  | none => false

/-- `get_all_instances(filters={'key-name': keyPrefix + '*'})`, or with no filter. A reservation is
listed with its matching instances, and not at all when none matches. -/
def getAllInstances (account : List Reservation) : Option Text → List Reservation
  | none => account
  | some keyPrefix =>
    (account.map fun reservation ↦
      { reservation with instances := reservation.instances.filter (·.keyStartsWith keyPrefix) })
      |>.filter fun reservation ↦ !reservation.instances.isEmpty

/-- The filter lists exactly the instances whose key name has the prefix. -/
theorem instancesOf_getAllInstances (account : List Reservation) (keyPrefix : Text) :
    instancesOf (getAllInstances account (some keyPrefix)) =
      (instancesOf account).filter (·.keyStartsWith keyPrefix) := by
  induction account with
  | nil => rfl
  | cons reservation rest ih =>
    rw [instancesOf_cons, List.filter_append, ← ih]
    simp only [getAllInstances, List.map_cons, List.filter_cons]
    split_ifs with hempty
    · rw [instancesOf_cons]
    · have hnone : reservation.instances.filter (·.keyStartsWith keyPrefix) = [] := by
        simpa using hempty
      rw [hnone, List.nil_append]

/-- Filtered or not, a listing has nothing but instances of the account. -/
theorem mem_of_getAllInstances {account : List Reservation} {keyFilter : Option Text}
    {instance_ : Instance} (hmem : instance_ ∈ instancesOf (getAllInstances account keyFilter)) :
    instance_ ∈ instancesOf account := by
  cases keyFilter with
  | none => exact hmem
  | some keyPrefix =>
    rw [instancesOf_getAllInstances] at hmem
    exact (List.mem_filter.mp hmem).1

/-! ### Changes of the account -/

/-- The state change of an instance; a terminated instance stays terminated. -/
def changeInstance (id : Text) (state : InstanceState) (instance_ : Instance) : Instance :=
  if instance_.id = id ∧ instance_.state ≠ .terminated then { instance_ with state := state }
  else instance_

@[simp] theorem changeInstance_id (id : Text) (state : InstanceState) (instance_ : Instance) :
    (changeInstance id state instance_).id = instance_.id := by
  unfold changeInstance
  split_ifs <;> rfl

/-- The state change of an instance among the reservations. -/
def changeReservations (id : Text) (state : InstanceState) (reservations : List Reservation) :
    List Reservation :=
  reservations.map fun reservation ↦
    { reservation with instances := reservation.instances.map (changeInstance id state) }

/-- The instances after a state change. -/
theorem instancesOf_changeReservations (id : Text) (state : InstanceState)
    (reservations : List Reservation) : instancesOf (changeReservations id state reservations) =
      (instancesOf reservations).map (changeInstance id state) := by
  simp [instancesOf, changeReservations, List.flatMap_map, List.map_flatMap]

/-- EC2 drops a terminated instance from its listing. -/
def dropTerminated (id : Text) (reservations : List Reservation) : List Reservation :=
  reservations.map fun reservation ↦
    { reservation with instances := reservation.instances.filter fun instance_ ↦
        instance_.id ≠ id ∨ instance_.state ≠ .terminated }

/-- The instances after a drop. -/
theorem instancesOf_dropTerminated (id : Text) (reservations : List Reservation) :
    instancesOf (dropTerminated id reservations) = (instancesOf reservations).filter
      fun instance_ ↦ instance_.id ≠ id ∨ instance_.state ≠ .terminated := by
  simp [instancesOf, dropTerminated, List.flatMap_map, List.filter_flatMap]

/-! ### Volumes -/

/-- `get_all_volumes(ids)`: every volume for an empty list of ids, and otherwise the volumes with
the given ids; an id that EC2 does not have is refused. -/
def getAllVolumes (account : List Volume) (ids : List Text) : Except PyError (List Volume) :=
  if ids = [] then .ok account
  else if ids.all fun id ↦ account.any fun volume ↦ volume.id = id then
    .ok (account.filter fun volume ↦ volume.id ∈ ids)
  else
    .error (.library "EC2ResponseError".toList "InvalidVolume.NotFound".toList)

end Ec2Wrappers.Aws
