import Ec2Wrappers.Foundations.Numerals

/-!
# Character references and start tags

In marked-up text a character is written as itself or as a reference, `&name;`, `&#n;` or `&#xh;`.
`resolveReferences` puts characters in the place of the references as the HTML standard has it: the
numbers from 128 to 159 stand for other characters than their own, and no number for a NUL. An
encoder that leaves `&` nowhere and writes every other character as itself or as a reference is read
character by character (`resolveReferences_encode`).

`readStartTag` reads a start tag as the tokenizer of the HTML standard does: its name and its
attributes up to the `>`. An attribute is a name with a value, in quotes or without, or a name
alone; a slash between attributes is skipped.

Left out are what the standard does to the text before, where a carriage return becomes a line feed,
the replacement of a NUL, and references without a semicolon, which stay as they are.
-/

set_option autoImplicit false
set_option relaxedAutoImplicit false

namespace Ec2Wrappers.Foundations

/-! ### Character references -/

/-- Characters with names, each name made of letters and digits and used once. -/
structure NamedCharacters where
  entries : List (Text × Char)
  names_nodup : (entries.map Prod.fst).Nodup
  names_alphanum : ∀ entry ∈ entries, ∀ c ∈ entry.1, c.isAlphanum = true

namespace NamedCharacters

variable {named : NamedCharacters}

/-- The name of a character. -/
def nameOf (named : NamedCharacters) (c : Char) : Option Text :=
  (named.entries.find? fun entry ↦ entry.2 = c).map Prod.fst

/-- The character of a name. -/
def charOf (named : NamedCharacters) (name : Text) : Option Char := named.entries.lookup name

theorem mem_of_nameOf {c : Char} {name : Text} (hname : named.nameOf c = some name) :
    (name, c) ∈ named.entries := by
  obtain ⟨entry, hfind, rfl⟩ := Option.map_eq_some_iff.mp hname
  have hchar : entry.2 = c := by simpa using List.find?_some hfind
  exact hchar ▸ List.mem_of_find?_eq_some hfind

/-- A name is read as its character. -/
theorem charOf_of_mem {c : Char} {name : Text} (hmem : (name, c) ∈ named.entries) :
    named.charOf name = some c := by
  obtain ⟨before, after, hentries⟩ := List.mem_iff_append.mp hmem
  have hnodup := named.names_nodup
  rw [hentries, List.map_append, List.map_cons] at hnodup
  refine List.lookup_eq_some_iff.mpr ⟨before, after, hentries, fun entry hentry ↦ ?_⟩
  have hother : entry.1 ≠ name := fun hsame ↦ (List.nodup_append.mp hnodup).2.2 _
    (List.mem_map.mpr ⟨entry, hentry, rfl⟩) _ List.mem_cons_self hsame
  simpa using hother.symm

end NamedCharacters

/-- The characters that the HTML standard has for numbers from 128 to 159; the five numbers that are
missing have the characters of their own. -/
def windowsCharacters : List (ℕ × ℕ) :=
  [(128, 8364), (130, 8218), (131, 402), (132, 8222), (133, 8230), (134, 8224), (135, 8225),
    (136, 710), (137, 8240), (138, 352), (139, 8249), (140, 338), (142, 381), (145, 8216),
    (146, 8217), (147, 8220), (148, 8221), (149, 8226), (150, 8211), (151, 8212), (152, 732),
    (153, 8482), (154, 353), (155, 8250), (156, 339), (158, 382), (159, 376)]

/-- The character of a number; zero and what is no character are replaced. -/
def numberedChar (code : ℕ) : Char :=
  if code = 0 ∨ ¬ code.isValidChar then Char.ofNat 65533
  else Char.ofNat ((windowsCharacters.lookup code).getD code)

/-- The other numbers stand for their own characters. -/
theorem numberedChar_toNat {c : Char} (hpos : c.toNat ≠ 0)
    (hrange : c.toNat < 128 ∨ 160 ≤ c.toNat) : numberedChar c.toNat = c := by
  have hentries : ∀ entry ∈ windowsCharacters, 128 ≤ entry.1 ∧ entry.1 < 160 := by decide
  have hlookup : windowsCharacters.lookup c.toNat = none := by
    rw [List.lookup_eq_none_iff]
    intro entry hentry
    have hbounds := hentries entry hentry
    have hother : c.toNat ≠ entry.1 := by omega
    simpa using hother
  have hvalid : c.toNat.isValidChar := c.valid
  rw [numberedChar, if_neg (by simp [hpos, hvalid]), hlookup, Option.getD_none, Char.ofNat_toNat]

/-- The character that a reference stands for, by what is between `&` and `;`. -/
def referenced (named : NamedCharacters) : Text → Option Char
  | '#' :: digits =>
    if digits.head? = some 'x' ∨ digits.head? = some 'X' then
      (readNumeral hexValue 16 digits.tail).map numberedChar
    else (readNumeral decimalValue 10 digits).map numberedChar
  | name => named.charOf name

/-- Resolve references; the name of a reference that is not closed yet is at hand. -/
def resolveFrom (named : NamedCharacters) : Option Text → Text → Text
  | none, [] => []
  | some name, [] => '&' :: name
  | none, c :: t => if c = '&' then resolveFrom named (some []) t else c :: resolveFrom named none t
  | some name, c :: t =>
    if c = ';' then
      match referenced named name with
      | some referred => referred :: resolveFrom named none t
      | none => '&' :: name ++ ';' :: resolveFrom named none t
    else if c = '&' then '&' :: name ++ resolveFrom named (some []) t
    else resolveFrom named (some (name ++ [c])) t

/-- The text with the characters its references stand for. -/
def resolveReferences (named : NamedCharacters) (t : Text) : Text := resolveFrom named none t

/-- A character of a reference, between `&` and `;`. -/
def isReferenceChar (c : Char) : Bool := c.isAlphanum || c = '#'

/-- The text is a reference to the character. -/
def IsReference (named : NamedCharacters) (c : Char) (t : Text) : Prop :=
  ∃ name, t = '&' :: (name ++ [';']) ∧ (∀ d ∈ name, isReferenceChar d = true) ∧
    referenced named name = some c

section

variable {named : NamedCharacters}

theorem ne_of_isReferenceChar {c mark : Char} (hc : isReferenceChar c = true)
    (hmark : isReferenceChar mark = false) : c ≠ mark := by
  rintro rfl
  exact absurd (hc.symm.trans hmark) (by decide)

theorem resolveFrom_name {name : Text} (hname : ∀ d ∈ name, isReferenceChar d = true)
    (before t : Text) :
    resolveFrom named (some before) (name ++ t) = resolveFrom named (some (before ++ name)) t := by
  induction name generalizing before with
  | nil => rw [List.nil_append, List.append_nil]
  | cons d name ih =>
    obtain ⟨hd, hrest⟩ := List.forall_mem_cons.mp hname
    have hopen : d ≠ '&' := ne_of_isReferenceChar hd (by decide)
    have hclose : d ≠ ';' := ne_of_isReferenceChar hd (by decide)
    rw [List.cons_append, resolveFrom, if_neg hclose, if_neg hopen, ih hrest, List.append_assoc,
      List.singleton_append]

theorem resolveFrom_reference {c : Char} {reference : Text}
    (hreference : IsReference named c reference) (t : Text) :
    resolveFrom named none (reference ++ t) = c :: resolveFrom named none t := by
  obtain ⟨name, rfl, hname, hreferenced⟩ := hreference
  rw [List.cons_append, List.append_assoc, resolveFrom, if_pos rfl, resolveFrom_name hname,
    List.nil_append, List.singleton_append, resolveFrom, if_pos rfl, hreferenced]

/-- Encoded text is resolved character by character. -/
theorem resolveReferences_encode {encodeChar : Char → Text} {readBack : Char → Char}
    (hencode : ∀ c, (encodeChar c = [c] ∧ c ≠ '&' ∧ readBack c = c) ∨
      IsReference named (readBack c) (encodeChar c))
    (t : Text) : resolveReferences named (t.flatMap encodeChar) = t.map readBack := by
  rw [resolveReferences]
  induction t with
  | nil => rfl
  | cons c t ih =>
    rw [List.flatMap_cons, List.map_cons]
    rcases hencode c with ⟨hself, hplain, hread⟩ | hreference
    · rw [hself, List.singleton_append, resolveFrom, if_neg hplain, ih, hread]
    · rw [resolveFrom_reference hreference, ih]

/-- A reference has no other mark than `&`, `#` and `;`. -/
theorem IsReference.not_mem {c mark : Char} {reference : Text}
    (hreference : IsReference named c reference) (hmark : isReferenceChar mark = false)
    (hopen : mark ≠ '&') (hclose : mark ≠ ';') : mark ∉ reference := by
  obtain ⟨name, rfl, hname, -⟩ := hreference
  intro hmem
  rcases List.mem_cons.mp hmem with hsame | hmem
  · exact hopen hsame
  rcases List.mem_append.mp hmem with hmem | hmem
  · exact ne_of_isReferenceChar (hname mark hmem) hmark rfl
  · exact hclose (List.mem_singleton.mp hmem)

/-- A name is a reference to its character. -/
theorem isReference_of_mem {c : Char} {name : Text} (hmem : (name, c) ∈ named.entries) :
    IsReference named c ('&' :: (name ++ [';'])) := by
  have halphanum := named.names_alphanum _ hmem
  refine ⟨name, rfl, fun d hd ↦ ?_, ?_⟩
  · rw [isReferenceChar, halphanum d hd, Bool.true_or]
  · rw [referenced.eq_2]
    · exact NamedCharacters.charOf_of_mem hmem
    · rintro digits rfl
      exact absurd (halphanum _ List.mem_cons_self) (by decide)

/-- A reference in hexadecimal digits. -/
theorem isReference_hexadecimal {digit : ℕ → Char}
    (hdigit : ∀ d < 16, hexValue (digit d) = some d ∧ isReferenceChar (digit d) = true)
    (code : ℕ) : IsReference named (numberedChar code)
      ('&' :: ('#' :: 'x' :: numeral digit 16 code ++ [';'])) := by
  refine ⟨'#' :: 'x' :: numeral digit 16 code, rfl, ?_, ?_⟩
  · intro d hd
    rcases List.mem_cons.mp hd with rfl | hd
    · decide
    rcases List.mem_cons.mp hd with rfl | hd
    · decide
    obtain ⟨place, hplace, rfl⟩ := exists_digit_of_mem_numeral (by decide) hd
    exact (hdigit place hplace).2
  · rw [referenced, if_pos (.inl rfl), List.tail_cons,
      readNumeral_numeral (by decide) fun d hd ↦ (hdigit d hd).1, Option.map_some]

/-- A reference in decimal digits. -/
theorem isReference_decimal (code : ℕ) : IsReference named (numberedChar code)
    ('&' :: ('#' :: numeral Nat.digitChar 10 code ++ [';'])) := by
  have hdigit : ∀ d < 10, isReferenceChar (Nat.digitChar d) = true ∧ Nat.digitChar d ≠ 'x' ∧
      Nat.digitChar d ≠ 'X' := by decide
  refine ⟨'#' :: numeral Nat.digitChar 10 code, rfl, ?_, ?_⟩
  · intro d hd
    rcases List.mem_cons.mp hd with rfl | hd
    · decide
    obtain ⟨place, hplace, rfl⟩ := exists_digit_of_mem_numeral (by decide) hd
    exact (hdigit place hplace).1
  · -- no decimal digit is an `x`
    have hnone : ¬ ((numeral Nat.digitChar 10 code).head? = some 'x' ∨
        (numeral Nat.digitChar 10 code).head? = some 'X') := by
      rintro (hhead | hhead)
      · obtain ⟨place, hplace, hsame⟩ :=
          exists_digit_of_mem_numeral (by decide) (List.mem_of_head? hhead)
        exact (hdigit place hplace).2.1 hsame.symm
      · obtain ⟨place, hplace, hsame⟩ :=
          exists_digit_of_mem_numeral (by decide) (List.mem_of_head? hhead)
        exact (hdigit place hplace).2.2 hsame.symm
    rw [referenced, if_neg hnone,
      readNumeral_numeral (by decide) fun _ hd ↦ decimalValue_digitChar hd, Option.map_some]

end

/-! ### Start tags -/

/-- A blank between attributes. -/
def isBlank (c : Char) : Bool := c = ' ' || c = '\n' || c = '\r' || c = '\t' || c = '\x0c'

/-- A character that does not end the name of a tag. -/
def isNamePart (c : Char) : Bool := !isBlank c && c ≠ '/' && c ≠ '>'

/-- A character of the name of a tag that stays as it is, in lower case and no NUL. -/
def isTagNameChar (c : Char) : Bool := isNamePart c && c.toLower = c && c.toNat ≠ 0

/-- A character of the name of an attribute that stays as it is. -/
def isAttributeNameChar (c : Char) : Bool := isTagNameChar c && c ≠ '='

/-- A point inside a start tag, with what is read of the attribute there. -/
inductive TagPoint
  | between
  | name (name : Text)
  | named (name : Text)
  | equals (name : Text)
  | quoted (name : Text) (quote : Char) (value : Text)
  | unquoted (name value : Text)

/-- The attributes of a name and a value, in front of those that are read from the rest. -/
def withAttribute (name value : Text) (rest : Option (List (Text × Text) × Text)) :
    Option (List (Text × Text) × Text) :=
  rest.map fun (attributes, rest) ↦ ((name, value) :: attributes, rest)

/-- Read attributes up to the `>`; references in values stay as they are. -/
def readAttributes : TagPoint → Text → Option (List (Text × Text) × Text)
  | _, [] => none
  | .between, c :: t =>
    if c = '>' then some ([], t)
    else if isBlank c || c = '/' then readAttributes .between t
    else readAttributes (.name [c.toLower]) t
  | .name name, c :: t =>
    if c = '>' then some ([(name, [])], t)
    else if isBlank c then readAttributes (.named name) t
    else if c = '/' then withAttribute name [] (readAttributes .between t)
    else if c = '=' then readAttributes (.equals name) t
    else readAttributes (.name (name ++ [c.toLower])) t
  | .named name, c :: t =>
    if c = '>' then some ([(name, [])], t)
    else if isBlank c then readAttributes (.named name) t
    else if c = '/' then withAttribute name [] (readAttributes .between t)
    else if c = '=' then readAttributes (.equals name) t
    else withAttribute name [] (readAttributes (.name [c.toLower]) t)
  | .equals name, c :: t =>
    if c = '>' then some ([(name, [])], t)
    else if isBlank c then readAttributes (.equals name) t
    else if c = '\'' ∨ c = '"' then readAttributes (.quoted name c []) t
    else readAttributes (.unquoted name [c]) t
  | .quoted name quote value, c :: t =>
    if c = quote then withAttribute name value (readAttributes .between t)
    else readAttributes (.quoted name quote (value ++ [c])) t
  | .unquoted name value, c :: t =>
    if c = '>' then some ([(name, value)], t)
    else if isBlank c then withAttribute name value (readAttributes .between t)
    else readAttributes (.unquoted name (value ++ [c])) t

/-- Read a start tag: its name, its attributes and what follows it. -/
def readStartTag (named : NamedCharacters) (t : Text) :
    Option (Text × List (Text × Text) × Text) :=
  match t with
  | '<' :: c :: t =>
    if c.isAlpha then
      (readAttributes .between ((c :: t).dropWhile isNamePart)).map fun (attributes, rest) ↦
        (((c :: t).takeWhile isNamePart).map Char.toLower,
          attributes.map fun (name, value) ↦ (name, resolveReferences named value), rest)
    else none
  | _ => none

theorem isTagNameChar_iff {c : Char} :
    isTagNameChar c = true ↔ isNamePart c = true ∧ c.toLower = c ∧ c.toNat ≠ 0 := by
  simp [isTagNameChar, and_assoc]

theorem isAttributeNameChar_iff {c : Char} : isAttributeNameChar c = true ↔
    isBlank c = false ∧ c ≠ '/' ∧ c ≠ '>' ∧ c.toLower = c ∧ c.toNat ≠ 0 ∧ c ≠ '=' := by
  simp [isAttributeNameChar, isTagNameChar, isNamePart, and_assoc]

theorem readAttributes_name {name : Text} (hname : ∀ c ∈ name, isAttributeNameChar c = true)
    (before t : Text) :
    readAttributes (.name before) (name ++ t) = readAttributes (.name (before ++ name)) t := by
  induction name generalizing before with
  | nil => rw [List.nil_append, List.append_nil]
  | cons c name ih =>
    obtain ⟨hc, hrest⟩ := List.forall_mem_cons.mp hname
    obtain ⟨hblank, hslash, hend, hlower, -, hequals⟩ := isAttributeNameChar_iff.mp hc
    rw [List.cons_append, readAttributes, if_neg hend, if_neg (by simp [hblank]), if_neg hslash,
      if_neg hequals, hlower, ih hrest, List.append_assoc, List.singleton_append]

theorem readAttributes_quoted {name value : Text} {quote : Char} (hvalue : quote ∉ value)
    (before t : Text) : readAttributes (.quoted name quote before) (value ++ quote :: t) =
      withAttribute name (before ++ value) (readAttributes .between t) := by
  induction value generalizing before with
  | nil => rw [List.nil_append, readAttributes, if_pos rfl, List.append_nil]
  | cons c value ih =>
    have hc : c ≠ quote := (List.ne_of_not_mem_cons hvalue).symm
    rw [List.cons_append, readAttributes, if_neg hc, ih (List.not_mem_of_not_mem_cons hvalue),
      List.append_assoc, List.singleton_append]

/-- What starts with a character of an attribute's name is the name of an attribute. -/
theorem readAttributes_start {name : Text} (hnil : name ≠ [])
    (hname : ∀ c ∈ name, isAttributeNameChar c = true) (t : Text) :
    readAttributes .between (name ++ t) = readAttributes (.name name) t := by
  obtain ⟨c, name, rfl⟩ := List.exists_cons_of_ne_nil hnil
  obtain ⟨hc, hrest⟩ := List.forall_mem_cons.mp hname
  obtain ⟨hblank, hslash, hend, hlower, -, -⟩ := isAttributeNameChar_iff.mp hc
  rw [List.cons_append, readAttributes, if_neg hend, if_neg (by simp [hblank, hslash]), hlower,
    readAttributes_name hrest, List.singleton_append]

/-- A blank or a slash between attributes is skipped. -/
theorem readAttributes_skip {mark : Char} (hmark : mark = ' ' ∨ mark = '/') (t : Text) :
    readAttributes .between (mark :: t) = readAttributes .between t := by
  rcases hmark with rfl | rfl
  · rw [readAttributes, if_neg (by decide), if_pos (by decide)]
  · rw [readAttributes, if_neg (by decide), if_pos (by decide)]

/-- An attribute with a value in quotes is read. -/
theorem readAttributes_valued {name value : Text} (hnil : name ≠ [])
    (hname : ∀ c ∈ name, isAttributeNameChar c = true) (hvalue : '\'' ∉ value) (t : Text) :
    readAttributes .between (name ++ '=' :: '\'' :: (value ++ '\'' :: t)) =
      withAttribute name value (readAttributes .between t) := by
  rw [readAttributes_start hnil hname, readAttributes, if_neg (by decide), if_neg (by decide),
    if_neg (by decide), if_pos rfl, readAttributes, if_neg (by decide), if_neg (by decide),
    if_pos (by decide), readAttributes_quoted hvalue, List.nil_append]

/-- The name of a start tag ends at a blank or a slash. -/
theorem readStartTag_name {named : NamedCharacters} {name : Text}
    (hfirst : name.head?.any Char.isAlpha = true) (hname : ∀ c ∈ name, isTagNameChar c = true)
    {mark : Char} (hmark : mark = ' ' ∨ mark = '/') {t rest : Text}
    {attributes : List (Text × Text)}
    (hread : readAttributes .between t = some (attributes, rest)) :
    readStartTag named ('<' :: (name ++ mark :: t)) = some (name,
      attributes.map fun (name, value) ↦ (name, resolveReferences named value), rest) := by
  obtain ⟨c, hc, hletter⟩ := (Option.any_eq_true _ _).mp hfirst
  obtain ⟨tail, rfl⟩ := List.head?_eq_some_iff.mp hc
  have hends : ¬ isNamePart mark = true := by rcases hmark with rfl | rfl <;> decide
  have hparts : ∀ d ∈ c :: tail, isNamePart d = true :=
    fun d hd ↦ (isTagNameChar_iff.mp (hname d hd)).1
  have hlower : (c :: tail).map Char.toLower = c :: tail :=
    (List.map_congr_left fun d hd ↦ (isTagNameChar_iff.mp (hname d hd)).2.1).trans (List.map_id _)
  have htake : (c :: (tail ++ mark :: t)).takeWhile isNamePart = c :: tail := by
    rw [← List.cons_append, List.takeWhile_append_of_pos hparts, List.takeWhile_cons_of_neg hends,
      List.append_nil]
  have hdrop : (c :: (tail ++ mark :: t)).dropWhile isNamePart = mark :: t := by
    rw [← List.cons_append, List.dropWhile_append_of_pos hparts, List.dropWhile_cons_of_neg hends]
  simp only [List.cons_append, readStartTag, if_pos hletter, htake, hdrop, hlower,
    readAttributes_skip hmark, hread, Option.map_some]

end Ec2Wrappers.Foundations
