import Ec2Wrappers.Foundations.Stages
import Ec2Wrappers.HadoopCloud.LaunchOptions
import Ec2Wrappers.HadoopCloud.LaunchSteps
import Ec2Wrappers.HadoopCloud.StorageCreation

/-!
# When a cluster launch goes through

A cluster launch should go through all of its steps: a launch that timed out or a role with no
running instance is no reason to stop half-way, with instances that are paid for and have neither
storage nor open ports (`GoesThrough`). `_wait_for_hadoop` and `_print_master_url` test what they
have looked up before they use it. The steps before them do not: the length of the result of a
timed-out launch is taken when the template is for a single instance, and the addresses of the
namenode and the jobtracker are read for the site file and for the ports whether or not they run.

Each step is a `Stage` whose fault is such a use. A launch goes through exactly when all that these
steps use is there when they come to it (`goesThrough_iff`).
-/

set_option autoImplicit false
set_option relaxedAutoImplicit false

namespace Ec2Wrappers.HadoopCloud

open Foundations Aws

/-! ### What a launch should do -/

/-- The request of a template can be made, with the host variables of the launches before it. -/
def Requestable (client : Client) (hosts : List Text) (template : InstanceTemplate) : Prop :=
  ∃ request, client.request (template.addEnvStrings hosts) = .ok request

/-- Every request can be made and EC2 refuses none. -/
def AllLaunched (client : Client) : List Text → List TemplateLaunch → Prop
  | _, [] => True
  | hosts, launch :: rest =>
    Requestable client hosts launch.template ∧ (∀ error, launch.reply ≠ .raised error) ∧
      AllLaunched client (hosts ++ hostsAdded launch) rest

/-- The namenode and the jobtracker are looked up for the site file, the credentials are set, and
the file can be opened. -/
structure OpensSiteFile (client : Client) (surroundings : Surroundings) : Prop where
  namenodes : ∃ found, surroundings.running .siteFile namenodeRole = .ok found
  jobtrackers : ∃ found, surroundings.running .siteFile jobtrackerRole = .ok found
  awsAccessKeyId : client.awsAccessKeyId ≠ none
  awsSecretAccessKey : client.awsSecretAccessKey ≠ none
  opened : surroundings.siteFileOpened = .ok ()

/-- The client's addresses are known, the namenode and the jobtracker are looked up for the ports,
and EC2 takes the rules for the clients. -/
structure AuthorizesClients (surroundings : Surroundings) : Prop where
  clients : ∃ clientCidrs, surroundings.clientCidrs = .ok clientCidrs ∧
    ∀ rule ∈ clientCidrs.flatMap clientRules, surroundings.authorized rule = .ok ()
  namenodes : ∃ found, surroundings.running .ports namenodeRole = .ok found
  jobtrackers : ∃ found, surroundings.running .ports jobtrackerRole = .ok found

/-- No step fails for a reason of its own. -/
structure NothingElseFails (client : Client) (surroundings : Surroundings)
    (storage : StorageWorld) : Prop where
  launched : AllLaunched client [] surroundings.launches
  running : ∀ step role, ∃ found, surroundings.running step role = .ok found
  awsAccessKeyId : client.awsAccessKeyId ≠ none
  awsSecretAccessKey : client.awsSecretAccessKey ≠ none
  siteFileOpened : surroundings.siteFileOpened = .ok ()
  siteFileWritten : surroundings.siteFileWritten = .ok ()
  clientIp : ∃ clientIp, surroundings.clientIp = .ok clientIp
  authorized : ∀ rule, surroundings.authorized rule = .ok ()
  resolved : ∀ name, ∃ ip, surroundings.resolved name = .ok ip
  attached : (attachClusterStorage client surroundings ⟨storage, []⟩).1 = .ok ()
  polls : ∀ error, .raised error ∉ surroundings.polls

/-- The launch uses no missing result, and where nothing else fails it comes to its end. -/
structure GoesThrough (client : Client) (surroundings : Surroundings) (storage : StorageWorld) :
    Prop where
  nothing_missing :
    (launchCluster client surroundings (.start client.order storage)).2.missingUsed = []
  completes : NothingElseFails client surroundings storage →
    (launchCluster client surroundings (.start client.order storage)).1 = .ok ()

/-! ### What has to be there -/

/-- No launch of a single instance that is made times out. -/
def SinglesStart (client : Client) (hosts : List Text) (launches : List TemplateLaunch) : Prop :=
  ∀ before launch rest, launches = before ++ launch :: rest → AllLaunched client hosts before →
    Requestable client (hosts ++ before.flatMap hostsAdded) launch.template →
      launch.template.number = 1 → launch.reply ≠ .timedOut

/-- The namenode and the jobtracker run when they are looked up for the site file. -/
def SiteFileFinds (surroundings : Surroundings) : Prop :=
  surroundings.running .siteFile namenodeRole ≠ .ok [] ∧
    surroundings.running .siteFile jobtrackerRole ≠ .ok []

/-- The address of the first instance that runs in a role. -/
def HasAddress (surroundings : Surroundings) (role ip : Text) : Prop :=
  ∃ name others, surroundings.running .ports role = .ok (name :: others) ∧
    surroundings.resolved name = .ok ip

/-- The namenode runs when it is looked up for the ports, and so does the jobtracker unless the
address of the namenode is not known. -/
def PortsFind (surroundings : Surroundings) : Prop :=
  surroundings.running .ports namenodeRole ≠ .ok [] ∧
    ((∃ ip, HasAddress surroundings namenodeRole ip) →
      surroundings.running .ports jobtrackerRole ≠ .ok [])

/-- The namenode and the jobtracker have an address, and EC2 takes the rules for them. -/
def AuthorizesMasters (surroundings : Surroundings) : Prop :=
  ∃ namenodeIp jobtrackerIp, HasAddress surroundings namenodeRole namenodeIp ∧
    HasAddress surroundings jobtrackerRole jobtrackerIp ∧
      ∀ rule ∈ masterRules namenodeIp jobtrackerIp, surroundings.authorized rule = .ok ()

/-- What the steps use is there when they come to it. -/
structure NothingMissing (client : Client) (surroundings : Surroundings) : Prop where
  launches : SinglesStart client [] surroundings.launches
  siteFile : AllLaunched client [] surroundings.launches → OpensSiteFile client surroundings →
    SiteFileFinds surroundings
  ports : AllLaunched client [] surroundings.launches → OpensSiteFile client surroundings →
    surroundings.siteFileWritten = .ok () → AuthorizesClients surroundings →
      PortsFind surroundings

/-! ### The stages -/

/-- A missing result was used. -/
def LaunchWorld.Faulty {order : DictOrder} (world : LaunchWorld order) : Prop :=
  world.missingUsed ≠ []

/-- Nothing missing was used, and the storage is as it was at the start. -/
structure LaunchWorld.Sound {order : DictOrder} (storage : StorageWorld)
    (world : LaunchWorld order) : Prop where
  missingUsed : world.missingUsed = []
  storage_eq : world.storage = ⟨storage, []⟩

section Stages

variable {order : DictOrder} {storage : StorageWorld} {Value : Type}

theorem not_faulty_of_sound (world : LaunchWorld order) (hsound : world.Sound storage) :
    ¬ world.Faulty :=
  fun hfaulty ↦ hfaulty hsound.missingUsed

/-- The world after a use is faulty. -/
theorem faulty_of_used {world : LaunchWorld order} {before : List MissingUse} {use : MissingUse}
    (hused : world.missingUsed = before ++ [use]) : world.Faulty := by
  rw [LaunchWorld.Faulty, hused]
  exact List.append_ne_nil_of_right_ne_nil before (List.cons_ne_nil use [])

/-- A part that only computes. -/
theorem stage_ofExcept {known : Prop} (result : Except PyError Value) :
    Stage LaunchWorld.Faulty (fun world : LaunchWorld order ↦ world.Sound storage ∧ known)
      (Py.ofExcept result)
      (fun value world ↦ world.Sound storage ∧ known ∧ result = .ok value)
      True (∃ value, result = .ok value) :=
  (Stage.ofExcept (fun world hworld ↦ not_faulty_of_sound world hworld.1) result).conseq
    (fun _ hworld ↦ hworld) fun _ _ hworld ↦ ⟨hworld.1.1, hworld.1.2, hworld.2⟩

/-- What a lookup has found: the first of the running instances. -/
def Finds (surroundings : Surroundings) (step : LookupStep) (role : Text) (first : Option Text) :
    Prop :=
  ∃ found, surroundings.running step role = .ok found ∧ first = found.head?

theorem stage_getFirst {known : Prop} (surroundings : Surroundings) (step : LookupStep)
    (role : Text) : Stage LaunchWorld.Faulty
      (fun world : LaunchWorld order ↦ world.Sound storage ∧ known)
      (getFirst surroundings step role)
      (fun first world ↦ world.Sound storage ∧ known ∧ Finds surroundings step role first)
      True (∃ found, surroundings.running step role = .ok found) := by
  have hreturn (found : List Text) : Stage LaunchWorld.Faulty
      (fun world : LaunchWorld order ↦
        world.Sound storage ∧ known ∧ surroundings.running step role = .ok found)
      (pure found.head?)
      (fun first world ↦ world.Sound storage ∧ known ∧ Finds surroundings step role first)
      True True :=
    Stage.returns_always fun world ⟨hworld, hknown, hfound⟩ ↦
      ⟨_, world, rfl, hworld, hknown, found, hfound, rfl⟩
  exact ((stage_ofExcept (surroundings.running step role)).bind hreturn).congr (by simp)
    fun _ ↦ by simp

/-- The address of what a lookup has found is there when the lookup found something. -/
theorem stage_publicIp {known : Prop} {surroundings : Surroundings} {step : LookupStep}
    {role : Text} {first : Option Text} (use : MissingUse)
    (hfinds : known → Finds surroundings step role first) :
    Stage LaunchWorld.Faulty (fun world : LaunchWorld order ↦ world.Sound storage ∧ known)
      (publicIp use first)
      (fun ip world ↦ world.Sound storage ∧ known ∧
        ∃ others, surroundings.running step role = .ok (ip :: others))
      (surroundings.running step role ≠ .ok []) True where
  completes := by
    rintro hsome - world ⟨hsound, hknown⟩
    obtain ⟨found, hfound, rfl⟩ := hfinds hknown
    rcases found with _ | ⟨ip, others⟩
    · exact absurd hfound hsome
    · exact ⟨ip, world, rfl, hsound, hknown, others, hfound⟩
  fails := fun _ hfails ↦ absurd trivial hfails
  faults := by
    rintro hnone world ⟨hsound, hknown⟩
    obtain ⟨found, hfound, rfl⟩ := hfinds hknown
    obtain rfl : found = [] := Except.ok.inj (hfound.symm.trans (not_not.mp hnone))
    exact ⟨_, _, rfl, faulty_of_used rfl⟩

/-! ### The site file -/

variable (client : Client) (surroundings : Surroundings)

theorem stage_openSiteFile {known : Prop} : Stage LaunchWorld.Faulty
    (fun world : LaunchWorld order ↦ world.Sound storage ∧ known)
    (openSiteFile client surroundings)
    (fun values world ↦ world.Sound storage ∧
      Finds surroundings .siteFile namenodeRole values.namenode ∧
        Finds surroundings .siteFile jobtrackerRole values.jobtracker)
    True (OpensSiteFile client surroundings) := by
  rw [openSiteFile]
  apply Stage.congr
  · apply (stage_getFirst surroundings .siteFile namenodeRole).bind
    intro namenode
    apply (stage_getFirst surroundings .siteFile jobtrackerRole).bind
    intro jobtracker
    apply (stage_ofExcept _).bind
    intro awsAccessKeyId
    apply (stage_ofExcept _).bind
    intro awsSecretAccessKey
    apply (stage_ofExcept _).bind
    intro _
    exact Stage.returns_always fun world ⟨hsound, ⟨⟨⟨⟨_, hnamenode⟩, hjobtracker⟩, _⟩, _⟩, _⟩ ↦
      ⟨_, _, rfl, ⟨hsound.missingUsed, hsound.storage_eq⟩, hnamenode, hjobtracker⟩
  · simp
  · intro _
    simp only [environ_returns_iff]
    constructor
    · rintro ⟨hnamenodes, hjobtrackers, hid, hsecret, ⟨_, hopened⟩, -⟩
      exact ⟨hnamenodes, hjobtrackers, hid, hsecret, hopened⟩
    · rintro ⟨hnamenodes, hjobtrackers, hid, hsecret, hopened⟩
      exact ⟨hnamenodes, hjobtrackers, hid, hsecret, ⟨(), hopened⟩, trivial⟩

theorem stage_writeSiteFile (values : SiteValues) : Stage LaunchWorld.Faulty
    (fun world : LaunchWorld order ↦ world.Sound storage ∧
      Finds surroundings .siteFile namenodeRole values.namenode ∧
        Finds surroundings .siteFile jobtrackerRole values.jobtracker)
    (writeSiteFile surroundings values) (fun _ world ↦ world.Sound storage ∧ True)
    (SiteFileFinds surroundings) (surroundings.siteFileWritten = .ok ()) := by
  rw [writeSiteFile]
  apply Stage.congr
  · apply (stage_publicIp .namenode fun hfinds ↦ hfinds.1).bind
    intro namenode
    apply (stage_publicIp .jobtracker fun hfinds ↦ hfinds.1.2).bind
    intro jobtracker
    apply (stage_ofExcept _).bind
    intro _
    exact Stage.returns_always fun world ⟨hsound, _⟩ ↦
      ⟨_, _, rfl, ⟨hsound.missingUsed, hsound.storage_eq⟩, trivial⟩
  · simp [SiteFileFinds]
  · intro _
    constructor
    · rintro ⟨-, -, ⟨_, hwritten⟩, -⟩
      exact hwritten
    · intro hwritten
      exact ⟨trivial, trivial, ⟨(), hwritten⟩, trivial⟩

/-- The site file is written when the namenode and the jobtracker are found; where the file cannot
be opened nothing is used. -/
theorem stage_createClientHadoopSiteFile : Stage LaunchWorld.Faulty
    (fun world : LaunchWorld order ↦ world.Sound storage ∧ True)
    (createClientHadoopSiteFile client surroundings) (fun _ world ↦ world.Sound storage ∧ True)
    (OpensSiteFile client surroundings → SiteFileFinds surroundings)
    (OpensSiteFile client surroundings ∧ surroundings.siteFileWritten = .ok ()) :=
  ((stage_openSiteFile client surroundings).bind (stage_writeSiteFile surroundings)).congr
    (by rw [true_and]) fun _ ↦ Iff.rfl

/-! ### The ports -/

theorem stage_authorizeRules {known : Prop} (rules : List PortRule) : Stage LaunchWorld.Faulty
    (fun world : LaunchWorld order ↦ world.Sound storage ∧ known)
    (Py.forEach rules (authorizeRole surroundings)) (fun _ world ↦ world.Sound storage ∧ known)
    True (∀ rule ∈ rules, surroundings.authorized rule = .ok ()) := by
  refine Stage.forEach (fun rule ↦ ?_) rules
  refine ⟨fun _ hauthorized world hworld ↦ ?_, fun _ hrefused world hworld ↦ ?_,
    fun hnotSafe ↦ absurd trivial hnotSafe⟩
  · refine ⟨(), { world with rules := world.rules ++ [rule] }, ?_,
      ⟨hworld.1.missingUsed, hworld.1.storage_eq⟩, hworld.2⟩
    rw [authorizeRole, hauthorized]
  · cases hanswer : surroundings.authorized rule with
    | ok _ => exact absurd hanswer hrefused
    | error error =>
      refine ⟨error, { world with rules := world.rules ++ [rule] }, ?_,
        not_faulty_of_sound _ ⟨hworld.1.missingUsed, hworld.1.storage_eq⟩⟩
      rw [authorizeRole, hanswer]

/-- The rules for the clients, once their addresses are known. -/
theorem stage_clientRules {known : Prop} {clientCidrs : List Text}
    (hclients : known → surroundings.clientCidrs = .ok clientCidrs) : Stage LaunchWorld.Faulty
    (fun world : LaunchWorld order ↦ world.Sound storage ∧ known)
    (Py.forEach (clientCidrs.flatMap clientRules) (authorizeRole surroundings))
    (fun _ world ↦ world.Sound storage ∧ known) True
    (∃ clientCidrs, surroundings.clientCidrs = .ok clientCidrs ∧
      ∀ rule ∈ clientCidrs.flatMap clientRules, surroundings.authorized rule = .ok ()) := by
  refine Stage.assume fun hknown ↦ ?_
  have hrules := @stage_authorizeRules order storage surroundings known
    (clientCidrs.flatMap clientRules)
  refine (hrules.conseq (fun _ hsound ↦ ⟨hsound, hknown⟩) fun _ _ hworld ↦ hworld).congr Iff.rfl
    fun _ ↦ ⟨fun hall ↦ ⟨clientCidrs, hclients hknown, hall⟩, ?_⟩
  rintro ⟨others, hothers, hall⟩
  rw [hclients hknown] at hothers
  cases hothers
  exact hall

theorem stage_authorizeClients : Stage LaunchWorld.Faulty
    (fun world : LaunchWorld order ↦ world.Sound storage ∧ True)
    (authorizeClients surroundings)
    (fun masters world ↦ world.Sound storage ∧
      Finds surroundings .ports namenodeRole masters.1 ∧
        Finds surroundings .ports jobtrackerRole masters.2)
    True (AuthorizesClients surroundings) := by
  rw [authorizeClients]
  apply Stage.congr
  · apply (stage_ofExcept surroundings.clientCidrs).bind
    intro clientCidrs
    apply (stage_getFirst surroundings .ports namenodeRole).bind
    intro namenode
    apply (stage_getFirst surroundings .ports jobtrackerRole).bind
    intro jobtracker
    apply (stage_clientRules surroundings fun hknown ↦ hknown.1.1.2).bind
    intro _
    exact Stage.returns_always fun world ⟨hsound, ⟨_, hnamenode⟩, hjobtracker⟩ ↦
      ⟨_, _, rfl, hsound, hnamenode, hjobtracker⟩
  · simp
  · intro _
    constructor
    · rintro ⟨-, hnamenodes, hjobtrackers, hclients, -⟩
      exact ⟨hclients, hnamenodes, hjobtrackers⟩
    · rintro ⟨hclients, hnamenodes, hjobtrackers⟩
      obtain ⟨clientCidrs, hclientCidrs, hall⟩ := hclients
      exact ⟨⟨clientCidrs, hclientCidrs⟩, hnamenodes, hjobtrackers,
        ⟨clientCidrs, hclientCidrs, hall⟩, trivial⟩

theorem hasAddress_unique {role first second : Text} (hfirst : HasAddress surroundings role first)
    (hsecond : HasAddress surroundings role second) : first = second := by
  obtain ⟨name, others, hrunning, hresolved⟩ := hfirst
  obtain ⟨other, rest, hother, hresolvedOther⟩ := hsecond
  rw [hrunning] at hother
  cases hother
  rw [hresolved] at hresolvedOther
  exact Except.ok.inj hresolvedOther

theorem stage_resolved {known : Prop} {name : Text} (role : Text)
    (hfound : known → ∃ others, surroundings.running .ports role = .ok (name :: others)) :
    Stage LaunchWorld.Faulty (fun world : LaunchWorld order ↦ world.Sound storage ∧ known)
      (Py.ofExcept (surroundings.resolved name))
      (fun ip world ↦ world.Sound storage ∧ known ∧ HasAddress surroundings role ip)
      True (∃ ip, HasAddress surroundings role ip) := by
  refine Stage.assume fun hknown ↦ ?_
  obtain ⟨others, hothers⟩ := hfound hknown
  refine ((Stage.ofExcept not_faulty_of_sound _).conseq (fun _ hsound ↦ hsound)
    fun ip world hworld ↦ ⟨hworld.1, hknown, name, others, hothers, hworld.2⟩).congr Iff.rfl
      fun _ ↦ ⟨?_, ?_⟩
  · rintro ⟨ip, hip⟩
    exact ⟨ip, name, others, hothers, hip⟩
  · rintro ⟨ip, other, rest, hother, hip⟩
    rw [hothers] at hother
    cases hother
    exact ⟨ip, hip⟩

/-- The rules for the namenode and the jobtracker, once both addresses are known. -/
theorem stage_masterRules {known : Prop} {namenodeIp jobtrackerIp : Text}
    (haddresses : known → HasAddress surroundings namenodeRole namenodeIp ∧
      HasAddress surroundings jobtrackerRole jobtrackerIp) :
    Stage LaunchWorld.Faulty (fun world : LaunchWorld order ↦ world.Sound storage ∧ known)
      (Py.forEach (masterRules namenodeIp jobtrackerIp) (authorizeRole surroundings))
      (fun _ world ↦ world.Sound storage ∧ True) True (AuthorizesMasters surroundings) := by
  refine Stage.assume fun hknown ↦ ?_
  obtain ⟨hnamenode, hjobtracker⟩ := haddresses hknown
  have hrules := @stage_authorizeRules order storage surroundings True
    (masterRules namenodeIp jobtrackerIp)
  refine (hrules.conseq (fun _ hworld ↦ ⟨hworld, trivial⟩) fun _ _ hworld ↦ hworld).congr Iff.rfl
    fun _ ↦ ⟨fun hall ↦ ⟨namenodeIp, jobtrackerIp, hnamenode, hjobtracker, hall⟩, ?_⟩
  rintro ⟨first, second, hfirst, hsecond, hall⟩
  rw [hasAddress_unique surroundings hnamenode hfirst,
    hasAddress_unique surroundings hjobtracker hsecond]
  exact hall

/-- The rules for the namenode and the jobtracker are made, once both are found. -/
theorem stage_authorizeMasters (masters : Option Text × Option Text) : Stage LaunchWorld.Faulty
    (fun world : LaunchWorld order ↦ world.Sound storage ∧
      Finds surroundings .ports namenodeRole masters.1 ∧
        Finds surroundings .ports jobtrackerRole masters.2)
    (authorizeMasters surroundings masters) (fun _ world ↦ world.Sound storage ∧ True)
    (PortsFind surroundings) (AuthorizesMasters surroundings) := by
  rw [authorizeMasters]
  apply Stage.congr
  · apply (stage_publicIp .namenode fun hfinds ↦ hfinds.1).bind
    intro namenode
    apply (stage_resolved surroundings namenodeRole fun hfinds ↦ hfinds.2).bind
    intro namenodeIp
    apply (stage_publicIp .jobtracker fun hfinds ↦ hfinds.1.1.2).bind
    intro jobtracker
    apply (stage_resolved surroundings jobtrackerRole fun hfinds ↦ hfinds.2).bind
    intro jobtrackerIp
    exact stage_masterRules surroundings fun hfinds ↦ ⟨hfinds.1.1.2, hfinds.2⟩
  · simp [PortsFind]
  · intro _
    constructor
    · rintro ⟨-, -, -, -, hmasters⟩
      exact hmasters
    · intro hmasters
      have haddresses := hmasters
      obtain ⟨namenodeIp, jobtrackerIp, hnamenode, hjobtracker, -⟩ := haddresses
      exact ⟨trivial, ⟨namenodeIp, hnamenode⟩, trivial, ⟨jobtrackerIp, hjobtracker⟩, hmasters⟩

/-- The ports are opened when the namenode and the jobtracker are found. -/
theorem stage_authorizeClientPorts : Stage LaunchWorld.Faulty
    (fun world : LaunchWorld order ↦ world.Sound storage ∧ True)
    (authorizeClientPorts surroundings) (fun _ world ↦ world.Sound storage ∧ True)
    (AuthorizesClients surroundings → PortsFind surroundings)
    (AuthorizesClients surroundings ∧ AuthorizesMasters surroundings) :=
  ((stage_authorizeClients surroundings).bind (stage_authorizeMasters surroundings)).congr
    (by rw [true_and]) fun _ ↦ Iff.rfl

/-! ### The launches -/

/-- The launches of single instances, from the first one on. -/
theorem singlesStart_cons (hosts : List Text) (launch : TemplateLaunch)
    (rest : List TemplateLaunch) : SinglesStart client hosts (launch :: rest) ↔
      (Requestable client hosts launch.template →
        (launch.template.number = 1 → launch.reply ≠ .timedOut) ∧
          ((∀ error, launch.reply ≠ .raised error) →
            SinglesStart client (hosts ++ hostsAdded launch) rest)) := by
  constructor
  · intro hsingles hrequest
    refine ⟨?_, fun hraised before other others hrest hbefore ↦ ?_⟩
    · refine hsingles [] launch rest rfl trivial ?_
      rwa [List.flatMap_nil, List.append_nil]
    · have hother := hsingles (launch :: before) other others (by rw [hrest, List.cons_append])
        ⟨hrequest, hraised, hbefore⟩
      rwa [List.flatMap_cons, ← List.append_assoc] at hother
  · intro hsingles before other others hlaunches hbefore hrequest
    rcases before with _ | ⟨first, before⟩
    · obtain ⟨rfl, rfl⟩ := List.cons_eq_cons.mp hlaunches
      rw [List.flatMap_nil, List.append_nil] at hrequest
      exact (hsingles hrequest).1
    · rw [List.cons_append] at hlaunches
      obtain ⟨rfl, rfl⟩ := List.cons_eq_cons.mp hlaunches
      obtain ⟨hfirst, hraised, hbefore⟩ := hbefore
      rw [List.flatMap_cons, ← List.append_assoc] at hrequest
      exact (hsingles hfirst).2 hraised before other others rfl hbefore hrequest

variable {client}

theorem sound_requested {world : LaunchWorld client.order} (hsound : world.Sound storage)
    (request : LaunchRequest client.order) : (world.requested request).Sound storage :=
  ⟨hsound.missingUsed, hsound.storage_eq⟩

variable (client)

/-- The launches go through when no launch of a single instance times out. -/
theorem stage_launchTemplates (hosts : List Text) (launches : List TemplateLaunch) :
    Stage LaunchWorld.Faulty
      (fun world : LaunchWorld client.order ↦ world.Sound storage ∧ True)
      (launchTemplates client hosts launches) (fun _ world ↦ world.Sound storage ∧ True)
      (SinglesStart client hosts launches) (AllLaunched client hosts launches) := by
  induction launches generalizing hosts with
  | nil =>
    refine Stage.congr (Stage.returns_always fun world hworld ↦ ⟨(), world, rfl, hworld⟩) ?_
      fun _ ↦ Iff.rfl
    refine iff_of_true trivial fun before launch rest hlaunches ↦ ?_
    simp at hlaunches
  | cons launch rest ih =>
    have hcons := singlesStart_cons client hosts launch rest
    cases hrequest : client.request (launch.template.addEnvStrings hosts) with
    | error error =>
      have hnone : ¬ Requestable client hosts launch.template := by
        rintro ⟨request, hmade⟩
        rw [hrequest] at hmade
        cases hmade
      exact Stage.fails_always (hcons.mpr fun hmade ↦ absurd hmade hnone) (fun hall ↦ hnone hall.1)
        fun world hworld ↦ ⟨error, world, launchTemplates_noRequest launch rest world hrequest,
          not_faulty_of_sound world hworld.1⟩
    | ok request =>
      have hmade : Requestable client hosts launch.template := ⟨request, hrequest⟩
      by_cases hmissing : launch.template.number = 1 ∧ launch.reply = .timedOut
      · refine Stage.faults_always (fun hsafe ↦ (hcons.mp hsafe hmade).1 hmissing.1 hmissing.2)
          fun world _ ↦ ⟨_, _, launchTemplates_missing launch rest world hrequest hmissing.2
            hmissing.1, faulty_of_used rfl⟩
      · have hsingle : launch.template.number = 1 → launch.reply ≠ .timedOut :=
          fun hnumber htimeout ↦ hmissing ⟨hnumber, htimeout⟩
        by_cases hraised : ∃ error, launch.reply = .raised error
        · obtain ⟨error, hraised⟩ := hraised
          refine Stage.fails_always (hcons.mpr fun _ ↦ ⟨hsingle, fun hnone ↦
            absurd hraised (hnone error)⟩) (fun hall ↦ hall.2.1 error hraised) fun world hworld ↦
              ⟨error, _, launchTemplates_raised launch rest world hrequest hraised,
                not_faulty_of_sound _ (sound_requested hworld.1 request)⟩
        · rw [not_exists] at hraised
          refine ((ih (hosts ++ hostsAdded launch)).step
            (fun world ↦ launchTemplates_next launch rest world hrequest hraised hsingle)
            fun world hworld ↦ ⟨sound_requested hworld.1 request, trivial⟩).congr ?_ fun _ ↦ ?_
          · rw [hcons]
            exact ⟨fun hrest _ ↦ ⟨hsingle, fun _ ↦ hrest⟩, fun hall ↦ (hall hmade).2 hraised⟩
          · exact ⟨fun hrest ↦ ⟨hmade, hraised, hrest⟩, fun hall ↦ hall.2.2⟩

/-! ### The end -/

/-- What the steps after the ports need to come to their end. -/
structure Finishes (storage : StorageWorld) : Prop where
  attached : (attachClusterStorage client surroundings ⟨storage, []⟩).1 = .ok ()
  waited : ∃ found, surroundings.running .waiting jobtrackerRole = .ok found ∧
    (found ≠ [] → ∃ started,
      waitForPolls surroundings.numberOfTasktrackers surroundings.polls = .ok started)
  printed : ∃ found, surroundings.running .printing jobtrackerRole = .ok found

/-- A world in which nothing missing was used. -/
def LaunchWorld.Clean {order : DictOrder} (world : LaunchWorld order) : Prop :=
  world.missingUsed = []

theorem stage_attachClusterStorage : Stage LaunchWorld.Faulty
    (fun world : LaunchWorld order ↦ world.Sound storage ∧ True)
    (Py.within LaunchWorld.storage (fun world storage ↦ { world with storage := storage })
      (attachClusterStorage client surroundings))
    (fun _ ↦ LaunchWorld.Clean) True
    ((attachClusterStorage client surroundings ⟨storage, []⟩).1 = .ok ()) := by
  have hrun (world : LaunchWorld order) (hworld : world.Sound storage) :
      Py.within LaunchWorld.storage (fun world storage ↦ { world with storage := storage })
        (attachClusterStorage client surroundings) world =
          ((attachClusterStorage client surroundings ⟨storage, []⟩).1,
            { world with
              storage := (attachClusterStorage client surroundings ⟨storage, []⟩).2 }) := by
    rw [← hworld.storage_eq]
    rfl
  refine ⟨fun _ hattached world hworld ↦ ?_, fun _ hfails world hworld ↦ ?_,
    fun hnotSafe ↦ absurd trivial hnotSafe⟩
  · rw [hrun world hworld.1, hattached]
    exact ⟨(), _, rfl, hworld.1.missingUsed⟩
  · cases hresult : (attachClusterStorage client surroundings ⟨storage, []⟩).1 with
    | ok _ => exact absurd hresult hfails
    | error error =>
      rw [hrun world hworld.1, hresult]
      exact ⟨error, _, rfl, fun hfaulty ↦ hfaulty hworld.1.missingUsed⟩

theorem not_faulty_of_clean (world : LaunchWorld order) (hclean : world.Clean) : ¬ world.Faulty :=
  fun hfaulty ↦ hfaulty hclean

/-- The wait tests whether there is a jobtracker. -/
theorem stage_waitForHadoop (number : ℤ) : Stage LaunchWorld.Faulty LaunchWorld.Clean
    (waitForHadoop surroundings number : Py (LaunchWorld order) Bool)
    (fun _ ↦ LaunchWorld.Clean) True
    (∃ found, surroundings.running .waiting jobtrackerRole = .ok found ∧
      (found ≠ [] → ∃ started, waitForPolls number surroundings.polls = .ok started)) := by
  cases hfound : surroundings.running .waiting jobtrackerRole with
  | error error =>
    refine Stage.fails_always trivial (by simp) fun world hworld ↦
      ⟨error, world, ?_, not_faulty_of_clean world hworld⟩
    simp [waitForHadoop, getFirst, hfound, Py.bind_eq, Py.bind]
  | ok found =>
    rcases found with _ | ⟨jobtracker, others⟩
    · refine Stage.congr (Stage.returns_always fun world hworld ↦ ⟨true, world, ?_, hworld⟩)
        Iff.rfl fun _ ↦ ?_
      · simp [waitForHadoop, getFirst, hfound, Py.bind_eq, Py.bind]
      · simp
    · have hprogram : (waitForHadoop surroundings number : Py (LaunchWorld order) Bool) =
          Py.ofExcept (waitForPolls number surroundings.polls) := by
        funext world
        simp [waitForHadoop, getFirst, hfound, Py.bind_eq, Py.bind]
      rw [hprogram]
      exact ((Stage.ofExcept not_faulty_of_clean _).conseq (fun _ hworld ↦ hworld)
        fun _ _ hworld ↦ hworld.1).congr Iff.rfl fun _ ↦ by simp

/-- The URL is printed if there is a jobtracker. -/
theorem stage_printMasterUrl : Stage LaunchWorld.Faulty LaunchWorld.Clean
    (printMasterUrl surroundings : Py (LaunchWorld order) Unit) (fun _ ↦ LaunchWorld.Clean) True
    (∃ found, surroundings.running .printing jobtrackerRole = .ok found) := by
  cases hfound : surroundings.running .printing jobtrackerRole with
  | error error =>
    refine Stage.fails_always trivial (by simp) fun world hworld ↦
      ⟨error, world, ?_, not_faulty_of_clean world hworld⟩
    simp [printMasterUrl, getFirst, hfound, Py.bind_eq, Py.bind]
  | ok found =>
    rcases found with _ | ⟨jobtracker, others⟩
    · refine Stage.congr (Stage.returns_always fun world hworld ↦ ⟨(), world, ?_, hworld⟩)
        Iff.rfl fun _ ↦ ?_
      · simp [printMasterUrl, getFirst, hfound, Py.bind_eq, Py.bind]
      · simp
    · refine Stage.congr (Stage.returns_always fun world hworld ↦ ⟨(), { world with
        printed := world.printed ++
          ["Browse the cluster at http://".toList ++ jobtracker ++ "/".toList] }, ?_, hworld⟩)
        Iff.rfl fun _ ↦ ?_
      · simp [printMasterUrl, getFirst, hfound, Py.bind_eq, Py.bind, printLine]
      · simp

theorem stage_reportTimeout (started : Bool) : Stage LaunchWorld.Faulty LaunchWorld.Clean
    (reportTimeout started : Py (LaunchWorld order) Unit) (fun _ ↦ LaunchWorld.Clean)
    True True := by
  refine Stage.returns_always fun world hworld ↦ ?_
  unfold reportTimeout
  split_ifs
  · exact ⟨(), world, rfl, hworld⟩
  · exact ⟨(), _, rfl, hworld⟩

/-- The steps after the ports use nothing that is missing. -/
theorem stage_finishLaunch : Stage LaunchWorld.Faulty
    (fun world : LaunchWorld order ↦ world.Sound storage ∧ True)
    (finishLaunch client surroundings) (fun _ ↦ LaunchWorld.Clean) True
    (Finishes client surroundings storage) := by
  rw [finishLaunch]
  apply Stage.congr
  · apply (stage_attachClusterStorage client surroundings).bind
    intro _
    apply (stage_waitForHadoop surroundings _).bind
    intro started
    exact (stage_reportTimeout started).bind fun _ ↦ stage_printMasterUrl surroundings
  · simp
  · intro _
    constructor
    · rintro ⟨hattached, hwaited, -, hprinted⟩
      exact ⟨hattached, hwaited, hprinted⟩
    · rintro ⟨hattached, hwaited, hprinted⟩
      exact ⟨hattached, hwaited, trivial, hprinted⟩

/-- The whole launch. -/
theorem stage_launchCluster : Stage LaunchWorld.Faulty
    (fun world : LaunchWorld client.order ↦ world.Sound storage ∧ True)
    (launchCluster client surroundings) (fun _ ↦ LaunchWorld.Clean)
    (NothingMissing client surroundings)
    ((AllLaunched client [] surroundings.launches ∧ OpensSiteFile client surroundings ∧
      surroundings.siteFileWritten = .ok () ∧ AuthorizesClients surroundings ∧
        AuthorizesMasters surroundings) ∧ Finishes client surroundings storage) := by
  rw [launchCluster]
  apply Stage.congr
  · apply (stage_launchTemplates client [] surroundings.launches).bind
    intro _
    apply (stage_createClientHadoopSiteFile client surroundings).bind
    intro _
    apply (stage_authorizeClientPorts surroundings).bind
    exact fun _ ↦ stage_finishLaunch client surroundings
  · constructor
    · rintro ⟨hsingles, hrest⟩
      exact ⟨hsingles, fun hall ↦ (hrest hall).1,
        fun hall hopens hwritten ↦ ((hrest hall).2 ⟨hopens, hwritten⟩).1⟩
    · rintro ⟨hsingles, hsite, hports⟩
      exact ⟨hsingles, fun hall ↦ ⟨hsite hall, fun hopens ↦
        ⟨hports hall hopens.1 hopens.2, fun _ ↦ trivial⟩⟩⟩
  · intro _
    tauto

end Stages

/-! ### When nothing else fails -/

/-- The wait for the page ends with the reads that are left. -/
theorem waitForPage_returns {polls : List Poll} (hpolls : ∀ error, .raised error ∉ polls) :
    waitForPage polls = .ok none ∨ ∃ number rest, waitForPage polls = .ok (some (number, rest)) ∧
      ∀ error, .raised error ∉ rest := by
  induction polls with
  | nil => exact Or.inl rfl
  | cons poll rest ih =>
    have hrest (error : PyError) : .raised error ∉ rest :=
      fun hmem ↦ hpolls error (List.mem_cons_of_mem poll hmem)
    cases poll with
    | ioError => exact ih hrest
    | raised error => exact absurd List.mem_cons_self (hpolls error)
    | tasktrackers number => exact Or.inr ⟨number, rest, rfl, hrest⟩

theorem waitForTasktrackers_returns (number : ℤ) (actualRunning : ℕ) {polls : List Poll}
    (hpolls : ∀ error, .raised error ∉ polls) :
    ∃ started, waitForTasktrackers number actualRunning polls = .ok started := by
  induction polls generalizing actualRunning with
  | nil => exact ⟨_, rfl⟩
  | cons poll rest ih =>
    have hrest (error : PyError) : .raised error ∉ rest :=
      fun hmem ↦ hpolls error (List.mem_cons_of_mem poll hmem)
    by_cases henough : number ≤ actualRunning
    · exact ⟨true, if_pos henough⟩
    · cases poll with
      | ioError =>
        obtain ⟨started, hstarted⟩ := ih actualRunning hrest
        exact ⟨started, (if_neg henough).trans hstarted⟩
      | raised error => exact absurd List.mem_cons_self (hpolls error)
      | tasktrackers running =>
        obtain ⟨started, hstarted⟩ := ih running hrest
        exact ⟨started, (if_neg henough).trans hstarted⟩

/-- The wait ends when no read of the page raises anything but an `IOError`. -/
theorem waitForPolls_returns (number : ℤ) {polls : List Poll}
    (hpolls : ∀ error, .raised error ∉ polls) :
    ∃ started, waitForPolls number polls = .ok started := by
  rcases waitForPage_returns hpolls with hpage | ⟨actualRunning, rest, hpage, hrest⟩
  · exact ⟨false, by rw [waitForPolls, hpage]; rfl⟩
  · obtain ⟨started, hstarted⟩ := waitForTasktrackers_returns number actualRunning hrest
    by_cases hnumber : 0 < number
    · refine ⟨started, ?_⟩
      rw [waitForPolls, hpage, ← hstarted]
      exact if_pos hnumber
    · refine ⟨true, ?_⟩
      rw [waitForPolls, hpage]
      exact if_neg hnumber

/-- A lookup that is answered and does not find nothing finds a first instance. -/
theorem exists_cons_of_found {answer : Except PyError (List Text)}
    (hanswer : ∃ found, answer = .ok found) (hfinds : answer ≠ .ok []) :
    ∃ first others, answer = .ok (first :: others) := by
  obtain ⟨found, rfl⟩ := hanswer
  rcases found with _ | ⟨first, others⟩
  · exact absurd rfl hfinds
  · exact ⟨first, others, rfl⟩

section NothingElse

variable {client : Client} {surroundings : Surroundings} {storage : StorageWorld}
  (helse : NothingElseFails client surroundings storage)

include helse

theorem NothingElseFails.opensSiteFile : OpensSiteFile client surroundings :=
  ⟨helse.running _ _, helse.running _ _, helse.awsAccessKeyId, helse.awsSecretAccessKey,
    helse.siteFileOpened⟩

theorem NothingElseFails.authorizesClients : AuthorizesClients surroundings := by
  refine ⟨?_, helse.running _ _, helse.running _ _⟩
  suffices hclients : ∃ clientCidrs, surroundings.clientCidrs = .ok clientCidrs by
    obtain ⟨clientCidrs, hclientCidrs⟩ := hclients
    exact ⟨clientCidrs, hclientCidrs, fun rule _ ↦ helse.authorized rule⟩
  unfold Surroundings.clientCidrs
  split
  · obtain ⟨clientIp, hclientIp⟩ := helse.clientIp
    exact ⟨[hostCidr clientIp], by rw [hclientIp]; rfl⟩
  · exact ⟨_, rfl⟩

/-- The rules for the namenode and the jobtracker are made when both are found. -/
theorem NothingElseFails.authorizesMasters (hports : PortsFind surroundings) :
    AuthorizesMasters surroundings := by
  have haddress {role : Text} (hfinds : surroundings.running .ports role ≠ .ok []) :
      ∃ ip, HasAddress surroundings role ip := by
    obtain ⟨name, others, hrunning⟩ := exists_cons_of_found (helse.running _ _) hfinds
    obtain ⟨ip, hip⟩ := helse.resolved name
    exact ⟨ip, name, others, hrunning, hip⟩
  have hnamenode := haddress hports.1
  obtain ⟨jobtrackerIp, hjobtracker⟩ := haddress (hports.2 hnamenode)
  obtain ⟨namenodeIp, hnamenode⟩ := hnamenode
  exact ⟨namenodeIp, jobtrackerIp, hnamenode, hjobtracker, fun rule _ ↦ helse.authorized rule⟩

theorem NothingElseFails.finishes : Finishes client surroundings storage := by
  refine ⟨helse.attached, ?_, helse.running _ _⟩
  obtain ⟨found, hfound⟩ := helse.running .waiting jobtrackerRole
  exact ⟨found, hfound, fun _ ↦ waitForPolls_returns _ helse.polls⟩

end NothingElse

/-- A launch uses no missing result, and comes to its end where nothing else fails, exactly when no
launch of a single instance times out and the namenode and the jobtracker are found for the site
file and for the ports, as far as the launch gets. -/
theorem goesThrough_iff (client : Client) (surroundings : Surroundings) (storage : StorageWorld) :
    GoesThrough client surroundings storage ↔ NothingMissing client surroundings := by
  have hstage := @stage_launchCluster storage client surroundings
  have hstart : (LaunchWorld.start client.order storage).Sound storage ∧ True :=
    ⟨⟨rfl, rfl⟩, trivial⟩
  have hfaulty := hstage.not_faulty_iff (fun _ ↦ not_faulty_of_clean) hstart
  constructor
  · intro hgoes
    exact hfaulty.mp fun hmissing ↦ hmissing hgoes.nothing_missing
  · intro hnothing
    refine ⟨not_not.mp (hfaulty.mpr hnothing), fun helse ↦ ?_⟩
    have hports := hnothing.ports helse.launched helse.opensSiteFile helse.siteFileWritten
      helse.authorizesClients
    obtain ⟨_, hreturns⟩ := hstage.returns hnothing ⟨⟨helse.launched, helse.opensSiteFile,
      helse.siteFileWritten, helse.authorizesClients, helse.authorizesMasters hports⟩,
        helse.finishes⟩ hstart
    exact hreturns

/-- `launch-cluster` with groups and what comes of their launches, in a world in which no other step
fails. -/
def groupsLaunched (groups : List ((ℤ × Text) × Reply)) (running : Text → List Text) :
    Surroundings where
  name := "c".toList
  configDir := "/home/ada/.hadoop-cloud".toList
  proxyPort := "6666".toList
  clientCidr := none
  launches := groups.map fun group ↦
    ⟨groupTemplate (clusterTemplateArguments sampleClient.provider sampleOptions) group.1, group.2⟩
  running := fun _ role ↦ .ok (running role)
  siteFileOpened := .ok ()
  siteFileWritten := .ok ()
  clientIp := .ok "192.0.2.1".toList
  authorized := fun _ ↦ .ok ()
  resolved := .ok
  account := .empty
  orders := fun _ ↦ inOrder
  polls := []

/-- `1 nn,snn,jt 5 dn,tt`, where the master has not started when the wait for it ends. -/
def lateMaster : Surroundings :=
  groupsLaunched [((1, "nn,snn,jt".toList), .timedOut),
    ((5, "dn,tt".toList), .running ["10.0.0.2".toList])] fun _ ↦ []

/-- `1 nn 5 dn`, a cluster with no jobtracker. -/
def onlyHdfs : Surroundings :=
  groupsLaunched [((1, "nn".toList), .running ["10.0.0.1".toList]),
    ((5, "dn".toList), .running ["10.0.0.2".toList])] fun role ↦
      if role = namenodeRole then ["10.0.0.1".toList]
      else if role = datanodeRole then ["10.0.0.2".toList]
      else []

/-- The first launch takes the length of what the master's launch has returned, before any slave is
launched. The second one reads the address of the jobtracker while it writes the site file. -/
theorem not_goesThrough_lateMaster :
    checkLaunchOptionsSet sampleClient.provider sampleOptions = .ok () ∧
      ¬ GoesThrough sampleClient lateMaster noStorage ∧
        ¬ GoesThrough sampleClient onlyHdfs noStorage := by
  refine ⟨rfl, fun hgoes ↦ ?_, fun hgoes ↦ ?_⟩
  · have hused : (launchCluster sampleClient lateMaster
        (.start sampleClient.order noStorage)).2.missingUsed = [.launched] := by decide +kernel
    rw [hgoes.nothing_missing] at hused
    cases hused
  · have hused : (launchCluster sampleClient onlyHdfs
        (.start sampleClient.order noStorage)).2.missingUsed = [.jobtracker] := by decide +kernel
    rw [hgoes.nothing_missing] at hused
    cases hused

end Ec2Wrappers.HadoopCloud
