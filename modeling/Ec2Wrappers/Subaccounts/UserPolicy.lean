import Ec2Wrappers.Foundations.Json
import Ec2Wrappers.Foundations.Wildcard

/-!
# The policy of a user

`get_user_policy` of `subaccounts.py` is a JSON document with the user's name put between wildcards
in two resources: every object whose key starts with the name, and every IAM user whose name has the
user's name anywhere in it. `policyDocument` is what the text parses to (`parse_getUserPolicy`).

IAM grants an action on a resource when a statement with effect `Allow` matches both and no
statement with effect `Deny` does (`Allows`). The wildcards make the policy of a user reach others
whose names overlap: the policy of `cs61c-a` covers the credentials of `cs61c-ab`
(`policy_reaches_other`). It grants nothing on another user exactly when neither name is in the
other in the way the wildcards leave open (`grantsNothingOn_iff`). The class accounts, whose names
all have one length, are such users.
-/

set_option autoImplicit false
set_option relaxedAutoImplicit false

namespace Ec2Wrappers.Subaccounts

open Foundations

/-! ### The document -/

/-- The policy up to the first place of the name. -/
def policyStart : Text :=
  "\n        \x7b\n            \"Statement\":[\x7b\n".toList ++
  "                \"Effect\":\"Allow\",\n".toList ++
  "                \"Action\":[\n".toList ++
  "                    \"s3:*\"\n".toList ++
  "                ],\n".toList ++
  "                \"Resource\": \"arn:aws:s3:::cs61c/".toList

/-- What follows the name in both places. -/
def policyClose : Text := "*\"".toList

/-- The policy between the two places. -/
def policyMiddle : Text :=
  "\n".toList ++
  "            \x7d,\n".toList ++
  "            \x7b\n".toList ++
  "                \"Effect\":\"Allow\",\n".toList ++
  "                \"Action\":[\n".toList ++
  "                    \"iam:*AccessKey*\",\n".toList ++
  "                    \"iam:*SigningCert*\",\n".toList ++
  "                    \"iam:*LoginProf*\"\n".toList ++
  "                ],\n".toList ++
  "                \"Resource\": \"arn:aws:iam::*:user/*".toList

/-- The policy after the second place. -/
def policyEnd : Text := "\n            \x7d]\n        \x7d\n    ".toList

/-- `get_user_policy`. -/
def getUserPolicy (userName : Text) : Text :=
  policyStart ++ userName ++ policyClose ++ policyMiddle ++ userName ++ policyClose ++ policyEnd

/-- What the names of the objects begin with. -/
def objectStart : Text := "arn:aws:s3:::cs61c/".toList

/-- The objects that belong to a name, up to the wildcard. -/
def objectArn (name : Text) : Text := objectStart ++ name

/-- The pattern of the objects of a user. -/
def objectPattern (userName : Text) : Text := objectArn userName ++ ['*']

/-- What the pattern of the IAM users begins with. -/
def userStart : Text := "arn:aws:iam::*:user/*".toList

/-- The pattern of the IAM users. -/
def userPattern (userName : Text) : Text := userStart ++ userName ++ ['*']

/-- An IAM user of an account. -/
def userArn (account userName : Text) : Text :=
  "arn:aws:iam::".toList ++ (account ++ (":user/".toList ++ userName))

/-- What the policy parses to. -/
def policyDocument (userName : Text) : Json :=
  .object [("Statement".toList, .array [
    .object [("Effect".toList, .text "Allow".toList),
      ("Action".toList, .array [.text "s3:*".toList]),
      ("Resource".toList, .text (objectPattern userName))],
    .object [("Effect".toList, .text "Allow".toList),
      ("Action".toList, .array [.text "iam:*AccessKey*".toList, .text "iam:*SigningCert*".toList,
        .text "iam:*LoginProf*".toList]),
      ("Resource".toList, .text (userPattern userName))]])]

/-! ### What a policy allows -/

/-- A statement of a policy. -/
structure Statement where
  effect : List Text
  actions : List Text
  resources : List Text

/-- The strings of an entry; none where the entry is missing. -/
def entryTexts (key : Text) (statement : Json) : List Text :=
  ((statement.entry key).map Json.texts).getD []

/-- The statements of a policy. -/
def statements (document : Json) : List Statement :=
  ((document.entry "Statement".toList).map Json.elements).getD [] |>.map fun statement ↦
    ⟨entryTexts "Effect".toList statement, entryTexts "Action".toList statement,
      entryTexts "Resource".toList statement⟩

/-- The statement is about the action and the resource. -/
def Statement.Covers (statement : Statement) (action resource : Text) : Prop :=
  (∃ pattern ∈ statement.actions, wildcardMatches pattern action = true) ∧
    ∃ pattern ∈ statement.resources, wildcardMatches pattern resource = true

/-- The policy allows the action on the resource. -/
def Allows (document : Json) (action resource : Text) : Prop :=
  (∃ statement ∈ statements document, statement.effect = ["Allow".toList] ∧
    statement.Covers action resource) ∧
  ∀ statement ∈ statements document, statement.effect = ["Deny".toList] →
    ¬ statement.Covers action resource

/-! ### Reading the document -/

/-- The tokens up to the first resource, between the two, and after the second. -/
def startTokens : List Json.Token :=
  [.mark '{', .text "Statement".toList, .mark ':', .mark '[', .mark '{', .text "Effect".toList,
    .mark ':', .text "Allow".toList, .mark ',', .text "Action".toList, .mark ':', .mark '[',
    .text "s3:*".toList, .mark ']', .mark ',', .text "Resource".toList, .mark ':']

def middleTokens : List Json.Token :=
  [.mark '}', .mark ',', .mark '{', .text "Effect".toList, .mark ':', .text "Allow".toList,
    .mark ',', .text "Action".toList, .mark ':', .mark '[', .text "iam:*AccessKey*".toList,
    .mark ',', .text "iam:*SigningCert*".toList, .mark ',', .text "iam:*LoginProf*".toList,
    .mark ']', .mark ',', .text "Resource".toList, .mark ':']

def endTokens : List Json.Token := [.mark '}', .mark ']', .mark '}']

theorem lexFrom_policyStart : Json.lexFrom .between policyStart =
    (startTokens, .inText objectStart) := by
  decide +kernel

/-- A name ends with `*` and a quote, and what follows is read from between tokens. -/
theorem lexFrom_close (read rest : Text) :
    Json.lexFrom (.inText read) (policyClose ++ rest) =
      (.text (read ++ ['*']) :: (Json.lexFrom .between rest).1,
        (Json.lexFrom .between rest).2) := by
  have hclose : policyClose = ['*', '"'] := rfl
  rw [hclose]
  rfl

theorem lexFrom_policyMiddle : Json.lexFrom .between policyMiddle =
    (middleTokens, .inText userStart) := by
  decide +kernel

theorem lexFrom_policyEnd : Json.lexFrom .between policyEnd = (endTokens, .between) := by
  decide +kernel

/-- The characters of the names the wrappers admit: letters, digits and the dash. -/
def isUserNameChar (c : Char) : Bool :=
  c = '-' || ('a' ≤ c && c ≤ 'z') || ('A' ≤ c && c ≤ 'Z') || ('0' ≤ c && c ≤ '9')

/-- A name the wrappers admit: it has no other characters and begins with `cs61c`. -/
structure UserName where
  name : Text
  chars : ∀ c ∈ name, isUserNameChar c = true
  starts : "cs61c".toList <+: name

/-- The characters of a name are none of the marks of JSON, of an ARN and of a pattern. -/
theorem isUserNameChar_plain {c : Char} (hc : isUserNameChar c = true) :
    Json.isPlain c = true ∧ c ≠ ':' ∧ c ≠ '*' := by
  have hblank : ' ' ≤ c := by
    simp only [isUserNameChar, Bool.or_eq_true, Bool.and_eq_true, decide_eq_true_eq] at hc
    rcases hc with ((rfl | ⟨hlow, -⟩) | ⟨hlow, -⟩) | ⟨hlow, -⟩
    · decide
    · exact Char.le_trans (show ' ' ≤ 'a' by decide) hlow
    · exact Char.le_trans (show ' ' ≤ 'A' by decide) hlow
    · exact Char.le_trans (show ' ' ≤ '0' by decide) hlow
  have hother (mark : Char) (hmark : isUserNameChar mark = false) : c ≠ mark := by
    rintro rfl
    rw [hc] at hmark
    cases hmark
  refine ⟨?_, hother ':' (by decide), hother '*' (by decide)⟩
  simp [Json.isPlain, hother '"' (by decide), hother '\\' (by decide), hblank]

/-- The tokens of a policy. -/
theorem lex_getUserPolicy (user : UserName) : Json.lex (getUserPolicy user.name) =
    some (startTokens ++ (.text (objectPattern user.name) ::
      (middleTokens ++ (.text (userPattern user.name) :: endTokens)))) := by
  have hplain : ∀ c ∈ user.name, Json.isPlain c = true := fun c hc ↦
    (isUserNameChar_plain (user.chars c hc)).1
  have hread : Json.lexFrom .between (getUserPolicy user.name) =
      (startTokens ++ (.text (objectPattern user.name) ::
        (middleTokens ++ (.text (userPattern user.name) :: endTokens))), .between) := by
    simp only [getUserPolicy, List.append_assoc, lexFrom_policyStart,
      Json.lexFrom_append _ policyStart, Json.lexFrom_append _ policyMiddle,
      Json.lexFrom_append _ user.name, Json.lexFrom_plain _ hplain, lexFrom_close,
      lexFrom_policyMiddle, lexFrom_policyEnd,
      objectPattern, objectArn, userPattern, List.nil_append]
  rw [Json.lex, hread]

/-- The policy of a user parses. -/
theorem parse_getUserPolicy (user : UserName) :
    Json.parse (getUserPolicy user.name) = some (policyDocument user.name) := by
  rw [Json.parse, lex_getUserPolicy]
  rfl

/-! ### What it grants -/

/-- An account number is made of digits. -/
def IsAccountNumber (account : Text) : Prop := ∀ c ∈ account, '0' ≤ c ∧ c ≤ '9'

/-- A name has no colon. -/
theorem UserName.colon_not_mem (user : UserName) : ':' ∉ user.name := fun hmem ↦
  (isUserNameChar_plain (user.chars ':' hmem)).2.1 rfl

/-- A name has no `*`. -/
theorem UserName.star_not_mem (user : UserName) : '*' ∉ user.name := fun hmem ↦
  (isUserNameChar_plain (user.chars '*' hmem)).2.2 rfl

/-- An account number has no colon. -/
theorem IsAccountNumber.colon_not_mem {account : Text} (haccount : IsAccountNumber account) :
    ':' ∉ account := fun hmem ↦ absurd (haccount ':' hmem).2 (by decide)

/-- A part that contains `:user/` and what follows it is cut there, where the part before it and
what follows it have no colon. -/
theorem cut_at_user {account name before after : Text} (haccount : ':' ∉ account)
    (hname : ':' ∉ name)
    (hsame : account ++ (":user/".toList ++ name) = before ++ (":user/".toList ++ after)) :
    name = after := by
  rcases List.append_eq_append_iff.mp hsame with ⟨more, -, hrest⟩ | ⟨more, hmore, hrest⟩
  · cases more with
    | nil => exact List.append_cancel_left hrest
    | cons c more =>
      obtain ⟨-, htail⟩ := List.cons.inj hrest
      have hcolon : ':' ∈ "user/".toList ++ name := by
        rw [show "user/".toList ++ name = _ from htail]
        simp
      simp [hname] at hcolon
  · cases more with
    | nil => exact (List.append_cancel_left hrest).symm
    | cons c more =>
      have hcolon : ':' = c := (List.cons.inj hrest).1
      rw [hmore, hcolon] at haccount
      simp at haccount

/-- The pattern of the IAM users matches those whose name has the user's name in it. -/
theorem userPattern_userArn (user other : UserName) {account : Text}
    (haccount : IsAccountNumber account) :
    wildcardMatches (userPattern user.name) (userArn account other.name) = true ↔
      user.name <:+: other.name := by
  have hpattern : userPattern user.name = "arn:aws:iam::".toList ++
      ('*' :: (":user/".toList ++ ('*' :: (user.name ++ ['*'])))) := rfl
  rw [hpattern, matches_literal (by decide)]
  simp only [matches_star, matches_literal (show '*' ∉ ":user/".toList by decide),
    matches_starts_iff user.star_not_mem]
  constructor
  · rintro ⟨_, harn, before, _, rfl, _, rfl, middle, rest, rfl, hstarts⟩
    have hname := cut_at_user haccount.colon_not_mem other.colon_not_mem
      (List.append_cancel_left harn)
    obtain ⟨after, rfl⟩ := hstarts
    exact ⟨middle, after, by rw [hname, List.append_assoc]⟩
  · rintro ⟨middle, after, hname⟩
    refine ⟨_, rfl, account, _, rfl, _, rfl, middle, user.name ++ after, ?_,
      List.prefix_append _ _⟩
    rw [← hname, List.append_assoc]

/-- The pattern of the objects does not match an IAM user. -/
theorem objectArn_not_userArn (name account other : Text) :
    ¬ objectArn name <+: userArn account other := by
  rintro ⟨rest, hsame⟩
  have hchar : some 's' = some 'i' := congrArg (·[8]?) hsame
  exact absurd hchar (by decide)

/-- The pattern of the IAM users does not match an object. -/
theorem userPattern_not_objectArn (user : UserName) (name : Text) :
    ¬ wildcardMatches (userPattern user.name) (objectArn name) = true := by
  have hpattern : userPattern user.name = "arn:aws:iam::".toList ++
      ('*' :: (":user/".toList ++ ('*' :: (user.name ++ ['*'])))) := rfl
  rw [hpattern, matches_literal (by decide)]
  rintro ⟨rest, hsame, -⟩
  have hchar : some 's' = some 'i' := congrArg (·[8]?) hsame
  exact absurd hchar (by decide)

/-- The actions on credentials. -/
def credentialActions : List Text :=
  ["iam:*AccessKey*".toList, "iam:*SigningCert*".toList, "iam:*LoginProf*".toList]

theorem statements_policyDocument (userName : Text) : statements (policyDocument userName) =
    [⟨["Allow".toList], ["s3:*".toList], [objectPattern userName]⟩,
      ⟨["Allow".toList], credentialActions, [userPattern userName]⟩] := rfl

/-- What the policy of a user allows. -/
theorem allows_policyDocument (user : UserName) (action resource : Text) :
    Allows (policyDocument user.name) action resource ↔
      wildcardMatches "s3:*".toList action = true ∧ objectArn user.name <+: resource ∨
        (∃ pattern ∈ credentialActions, wildcardMatches pattern action = true) ∧
          wildcardMatches (userPattern user.name) resource = true := by
  have hstar : '*' ∉ objectArn user.name := by
    have hliteral : '*' ∉ objectStart := by decide +kernel
    intro hmem
    rcases List.mem_append.mp hmem with hleft | hright
    · exact hliteral hleft
    · exact user.star_not_mem hright
  have hobjects := matches_starts_iff hstar resource
  rw [Allows, statements_policyDocument]
  constructor
  · rintro ⟨⟨statement, hmem, -, ⟨pattern, hpattern, haction⟩, resources, hresources,
      hresource⟩, -⟩
    rcases List.mem_cons.mp hmem with rfl | hmem
    · rw [List.mem_singleton.mp hpattern] at haction
      rw [List.mem_singleton.mp hresources] at hresource
      exact Or.inl ⟨haction, hobjects.mp hresource⟩
    · rw [List.mem_singleton.mp hmem] at hpattern hresources
      rw [List.mem_singleton.mp hresources] at hresource
      exact Or.inr ⟨⟨pattern, hpattern, haction⟩, hresource⟩
  · intro hgrants
    refine ⟨?_, fun statement hmem hdeny ↦ ?_⟩
    · rcases hgrants with ⟨haction, hobject⟩ | ⟨haction, huser⟩
      · exact ⟨_, List.mem_cons_self, rfl, ⟨_, List.mem_singleton_self _, haction⟩,
          _, List.mem_singleton_self _, hobjects.mpr hobject⟩
      · exact ⟨_, List.mem_cons_of_mem _ (List.mem_singleton_self _), rfl, haction,
          _, List.mem_singleton_self _, huser⟩
    · have hallow : statement.effect = ["Allow".toList] := by
        rcases List.mem_cons.mp hmem with rfl | hmem
        · rfl
        · rw [List.mem_singleton.mp hmem]
      rw [hallow] at hdeny
      exact absurd hdeny (by decide)

/-- The policy of the user parses, and allows no action on the other IAM user or on an object whose
key starts with the other name. -/
def GrantsNothingOn (user other : UserName) : Prop :=
  ∃ document, Json.parse (getUserPolicy user.name) = some document ∧
    (∀ account, IsAccountNumber account →
      ∀ action, ¬ Allows document action (userArn account other.name)) ∧
    ∀ rest action, ¬ Allows document action (objectArn (other.name ++ rest))

/-- The policy of a user grants nothing on another user exactly when the name of the user is not a
part of the other name, and the other name is not the beginning of the name of the user. -/
theorem grantsNothingOn_iff (user other : UserName) : GrantsNothingOn user other ↔
    ¬ user.name <:+: other.name ∧ ¬ other.name <+: user.name := by
  constructor
  · rintro ⟨document, hparse, husers, hobjects⟩
    rw [parse_getUserPolicy, Option.some.injEq] at hparse
    subst hparse
    constructor
    · intro hpiece
      have haccount : IsAccountNumber "0".toList := show ∀ _ ∈ _, _ from by decide
      refine husers _ haccount "iam:CreateAccessKey".toList
        ((allows_policyDocument user _ _).mpr (Or.inr ⟨?_, ?_⟩))
      · exact ⟨_, List.mem_cons_self, by decide +kernel⟩
      · exact (userPattern_userArn user other haccount).mpr hpiece
    · rintro ⟨rest, hname⟩
      refine hobjects rest "s3:GetObject".toList
        ((allows_policyDocument user _ _).mpr (Or.inl ⟨by decide +kernel, ?_⟩))
      rw [hname]
  · rintro ⟨hpiece, hstarts⟩
    refine ⟨_, parse_getUserPolicy user, fun account haccount action hallows ↦ ?_,
      fun rest action hallows ↦ ?_⟩
    · rcases (allows_policyDocument user _ _).mp hallows with ⟨-, hobject⟩ | ⟨-, huser⟩
      · exact objectArn_not_userArn _ _ _ hobject
      · exact hpiece ((userPattern_userArn user other haccount).mp huser)
    · rcases (allows_policyDocument user _ _).mp hallows with ⟨-, hobject⟩ | ⟨-, huser⟩
      · have hname : user.name <+: other.name ++ rest :=
          (List.prefix_append_right_inj _).mp hobject
        rcases List.prefix_or_prefix_of_prefix hname (List.prefix_append other.name rest) with
          hshort | hlong
        · exact hpiece hshort.isInfix
        · exact hstarts hlong
      · exact userPattern_not_objectArn user _ huser

/-- Two users, the name of one the beginning of the name of the other. -/
def shortName : UserName := ⟨"cs61c-a".toList, by decide, by decide⟩

def longName : UserName := ⟨"cs61c-ab".toList, by decide, by decide⟩

/-- The policy of `cs61c-a` lets its user make access keys for `cs61c-ab`. -/
theorem policy_reaches_other : shortName.name ≠ longName.name ∧
    ¬ GrantsNothingOn shortName longName := by
  refine ⟨by decide, ?_⟩
  rintro ⟨document, hparse, husers, -⟩
  rw [parse_getUserPolicy, Option.some.injEq] at hparse
  subst hparse
  have haccount : IsAccountNumber "0".toList := show ∀ _ ∈ _, _ from by decide
  have hpiece : shortName.name <:+: longName.name := ⟨[], "b".toList, rfl⟩
  refine husers _ haccount "iam:CreateAccessKey".toList ((allows_policyDocument _ _ _).mpr
    (Or.inr ⟨⟨_, List.mem_cons_self, by decide +kernel⟩, ?_⟩))
  exact (userPattern_userArn shortName longName haccount).mpr hpiece

end Ec2Wrappers.Subaccounts
