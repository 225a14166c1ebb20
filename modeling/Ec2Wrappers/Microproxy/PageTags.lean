import Ec2Wrappers.Foundations.Markup
import Ec2Wrappers.Foundations.PyStrings
import Ec2Wrappers.Microproxy.SimpleProxy

/-!
# The tags of a page

`simpleproxy.perl` writes every start tag of a page anew: the links are rewritten, every value is
encoded by `encode_entities` of `HTML/Entities.pm` and put between single quotes, and the names come
in reverse order. The parser is no part of the program; what it gives is a `StartTag`.

A reader of the page, by the HTML standard, gets the name of the tag and the names of its attributes
back, and what follows the tag is not touched, whatever the values are (`startTag_read_back`). It
gets the rewritten values, but for the few characters that it takes for others: a reference to a
character from 128 to 159 is read as in the encoding of Windows, and two angle brackets have other
names than in the table. Of a page in UTF-8 the parser takes each byte for a character, as it is not
told the encoding: a value arrives as it was exactly when it is ASCII (`utf8Value_arrives_iff`).

What `start_tag` prints for the log is left out.
-/

set_option autoImplicit false
set_option relaxedAutoImplicit false

namespace Ec2Wrappers.Microproxy

open Foundations

/-! ### Entities -/

/-- A name as a number. -/
def nameCode (name : Text) : ℕ := name.foldl (fun code c ↦ 128 * code + c.toNat) 0

/-- The entries of `%entity2char`, with the codes of the characters; a hash has no order, and the
names stand in the order of their numbers. -/
def codedEntities : List (String × ℕ) :=
  [("Mu;", 924), ("Nu;", 925), ("Pi;", 928), ("Xi;", 926), ("ge;", 8805), ("gt", 62),
    ("le;", 8804), ("lt", 60), ("mu;", 956), ("ne;", 8800), ("ni;", 8715), ("nu;", 957),
    ("or;", 8744), ("pi;", 960), ("xi;", 958), ("Chi;", 935), ("ETH", 208), ("Eta;", 919),
    ("Phi;", 934), ("Psi;", 936), ("Rho;", 929), ("Tau;", 932), ("amp", 38), ("and;", 8743),
    ("ang;", 8736), ("cap;", 8745), ("chi;", 967), ("cup;", 8746), ("deg", 176), ("eta;", 951),
    ("eth", 240), ("int;", 8747), ("loz;", 9674), ("lrm;", 8206), ("not", 172), ("phi;", 966),
    ("piv;", 982), ("psi;", 968), ("reg", 174), ("rho;", 961), ("rlm;", 8207), ("shy", 173),
    ("sim;", 8764), ("sub;", 8834), ("sum;", 8721), ("sup;", 8835), ("tau;", 964), ("uml", 168),
    ("yen", 165), ("zwj;", 8205), ("Auml", 196), ("Beta;", 914), ("Euml", 203), ("Iota;", 921),
    ("Iuml", 207), ("Ouml", 214), ("Uuml", 220), ("Yuml;", 376), ("Zeta;", 918), ("apos", 39),
    ("auml", 228), ("beta;", 946), ("bull;", 8226), ("cent", 162), ("circ;", 710), ("cong;", 8773),
    ("copy", 169), ("dArr;", 8659), ("darr;", 8595), ("emsp;", 8195), ("ensp;", 8194),
    ("euml", 235), ("euro;", 8364), ("fnof;", 402), ("hArr;", 8660), ("harr;", 8596),
    ("iota;", 953), ("isin;", 8712), ("iuml", 239), ("lArr;", 8656), ("lang;", 9001),
    ("larr;", 8592), ("macr", 175), ("nbsp", 160), ("nsub;", 8836), ("ordf", 170), ("ordm", 186),
    ("ouml", 246), ("para", 182), ("part;", 8706), ("perp;", 8869), ("prod;", 8719),
    ("prop;", 8733), ("quot", 34), ("rArr;", 8658), ("rang;", 9002), ("rarr;", 8594),
    ("real;", 8476), ("sdot;", 8901), ("sect", 167), ("sube;", 8838), ("sup1", 185), ("sup2", 178),
    ("sup3", 179), ("supe;", 8839), ("uArr;", 8657), ("uarr;", 8593), ("uuml", 252), ("yuml", 255),
    ("zeta;", 950), ("zwnj;", 8204), ("AElig", 198), ("Acirc", 194), ("Alpha;", 913),
    ("Aring", 197), ("Delta;", 916), ("Ecirc", 202), ("Gamma;", 915), ("Icirc", 206),
    ("Kappa;", 922), ("OElig;", 338), ("Ocirc", 212), ("Omega;", 937), ("Prime;", 8243),
    ("Sigma;", 931), ("THORN", 222), ("Theta;", 920), ("Ucirc", 219), ("acirc", 226),
    ("acute", 180), ("aelig", 230), ("alpha;", 945), ("aring", 229), ("asymp;", 8776),
    ("bdquo;", 8222), ("cedil", 184), ("clubs;", 9827), ("crarr;", 8629), ("delta;", 948),
    ("diams;", 9830), ("ecirc", 234), ("empty;", 8709), ("equiv;", 8801), ("exist;", 8707),
    ("frasl;", 8260), ("gamma;", 947), ("icirc", 238), ("iexcl", 161), ("image;", 8465),
    ("infin;", 8734), ("kappa;", 954), ("laquo", 171), ("lceil;", 8968), ("ldquo;", 8220),
    ("lsquo;", 8216), ("mdash;", 8212), ("micro", 181), ("minus;", 8722), ("nabla;", 8711),
    ("ndash;", 8211), ("notin;", 8713), ("ocirc", 244), ("oelig;", 339), ("oline;", 8254),
    ("omega;", 969), ("oplus;", 8853), ("pound", 163), ("prime;", 8242), ("radic;", 8730),
    ("raquo", 187), ("rceil;", 8969), ("rdquo;", 8221), ("rsquo;", 8217), ("sbquo;", 8218),
    ("sigma;", 963), ("szlig", 223), ("theta;", 952), ("thorn", 254), ("tilde;", 732),
    ("times", 215), ("trade;", 8482), ("ucirc", 251), ("upsih;", 978), ("Aacute", 193),
    ("Agrave", 192), ("Atilde", 195), ("Ccedil", 199), ("Dagger;", 8225), ("Eacute", 201),
    ("Egrave", 200), ("Iacute", 205), ("Igrave", 204), ("Lambda;", 923), ("Ntilde", 209),
    ("Oacute", 211), ("Ograve", 210), ("Oslash", 216), ("Otilde", 213), ("Scaron;", 352),
    ("Uacute", 218), ("Ugrave", 217), ("Yacute", 221), ("aacute", 225), ("agrave", 224),
    ("atilde", 227), ("brvbar", 166), ("ccedil", 231), ("curren", 164), ("dagger;", 8224),
    ("divide", 247), ("eacute", 233), ("egrave", 232), ("forall;", 8704), ("frac12", 189),
    ("frac14", 188), ("frac34", 190), ("hearts;", 9829), ("hellip;", 8230), ("iacute", 237),
    ("igrave", 236), ("iquest", 191), ("lambda;", 955), ("lfloor;", 8970), ("lowast;", 8727),
    ("lsaquo;", 8249), ("middot", 183), ("ntilde", 241), ("oacute", 243), ("ograve", 242),
    ("oslash", 248), ("otilde", 245), ("otimes;", 8855), ("permil;", 8240), ("plusmn", 177),
    ("rfloor;", 8971), ("rsaquo;", 8250), ("scaron;", 353), ("sigmaf;", 962), ("spades;", 9824),
    ("there4;", 8756), ("thinsp;", 8201), ("uacute", 250), ("ugrave", 249), ("weierp;", 8472),
    ("yacute", 253), ("Epsilon;", 917), ("Omicron;", 927), ("Upsilon;", 933), ("alefsym;", 8501),
    ("epsilon;", 949), ("omicron;", 959), ("upsilon;", 965), ("thetasym;", 977)]

/-- The entries of `%entity2char`; a semicolon at the end of a name is dropped. -/
def entityEntries : List (Text × Char) :=
  codedEntities.map fun (name, code) ↦ (name.toList.takeWhile (· ≠ ';'), Char.ofNat code)

theorem nodup_entityNames : (entityEntries.map Prod.fst).Nodup := by
  have hcodes : ((entityEntries.map Prod.fst).map nameCode).IsChain (· < ·) := by decide +kernel
  have hnodup : ((entityEntries.map Prod.fst).map nameCode).Nodup :=
    (List.isChain_iff_pairwise.mp hcodes).imp fun hlt ↦ hlt.ne
  exact hnodup.of_map

/-- `%entity2char`. -/
def entity2char : NamedCharacters where
  entries := entityEntries
  names_nodup := nodup_entityNames
  names_alphanum := by decide +kernel

/-- `%char2entity`: the entities, but none for the apostrophe, and the decimal references of the
other characters up to 255. -/
def char2entity (c : Char) : Option Text :=
  match if c = '\'' then none else entity2char.nameOf c with
  | some name => some ('&' :: (name ++ [';']))
  | none =>
    if c.toNat ≤ 255 then some ('&' :: ('#' :: numeral Nat.digitChar 10 c.toNat ++ [';'])) else none

/-- `num_entity`. -/
def numEntity (c : Char) : Text := '&' :: ('#' :: 'x' :: numeral hexDigit 16 c.toNat ++ [';'])

/-- `[\n\r\t !\#\$%\(-;=?-~]`. -/
def isPlainChar (c : Char) : Bool :=
  c = '\n' || c = '\r' || c = '\t' || c = ' ' || c = '!' || c = '#' || c = '$' || c = '%' ||
    ('(' ≤ c && c ≤ ';') || c = '=' || ('?' ≤ c && c ≤ '~')

/-- What `encode_entities` puts in the place of a character. -/
def encodeChar (c : Char) : Text :=
  if isPlainChar c then [c] else (char2entity c).getD (numEntity c)

/-- `encode_entities`. -/
def encodeEntities (t : Text) : Text := t.flatMap encodeChar

/-- The character of a name in the HTML standard: there `lang` and `rang` are other brackets. -/
def standardCharacter (c : Char) : Char :=
  if c.toNat = 9001 then Char.ofNat 10216 else if c.toNat = 9002 then Char.ofNat 10217 else c

/-- The names of the table as a reader by the HTML standard has them. -/
def standardEntities : NamedCharacters where
  entries := entityEntries.map fun (name, c) ↦ (name, standardCharacter c)
  names_nodup := by
    rw [List.map_map]
    exact nodup_entityNames
  names_alphanum := by decide +kernel

/-- What a reader takes a written character for. -/
def readBack (c : Char) : Char :=
  if standardCharacter c = c then numberedChar c.toNat else standardCharacter c

/-- A character that readers take for itself; a carriage return is a line feed to them. -/
def ReadAlike (c : Char) : Prop :=
  c.toNat ≠ 0 ∧ c ≠ '\r' ∧ (c.toNat < 128 ∨ 160 ≤ c.toNat) ∧ c.toNat ≠ 9001 ∧ c.toNat ≠ 9002

theorem standardCharacter_eq_self {c : Char} (hleft : c.toNat ≠ 9001) (hright : c.toNat ≠ 9002) :
    standardCharacter c = c := by
  rw [standardCharacter, if_neg hleft, if_neg hright]

theorem readBack_eq_self {c : Char} (halike : ReadAlike c) : readBack c = c := by
  obtain ⟨hpos, -, hrange, hleft, hright⟩ := halike
  rw [readBack, if_pos (standardCharacter_eq_self hleft hright), numberedChar_toNat hpos hrange]

theorem map_readBack_eq_self {t : Text} (halike : ∀ c ∈ t, ReadAlike c) : t.map readBack = t :=
  (List.map_congr_left fun c hc ↦ readBack_eq_self (halike c hc)).trans (List.map_id t)

/-- Plain characters stay as they are. -/
theorem readAlike_of_plain {c : Char} (hplain : isPlainChar c = true) (hreturn : c ≠ '\r') :
    ReadAlike c := by
  have hcode : c.toNat ≠ 0 ∧ c.toNat < 128 := by
    simp only [isPlainChar, Bool.or_eq_true, Bool.and_eq_true, decide_eq_true_eq] at hplain
    rcases hplain with
      (((((((((rfl | rfl) | rfl) | rfl) | rfl) | rfl) | rfl) | rfl) | ⟨hlow, hhigh⟩) | rfl) |
        ⟨hlow, hhigh⟩
    all_goals first
      | decide
      | exact ⟨ne_of_gt ((by decide : 0 < _).trans_le hlow), lt_of_le_of_lt hhigh (by decide)⟩
  exact ⟨hcode.1, hreturn, .inl hcode.2, by omega, by omega⟩

theorem readBack_of_plain {c : Char} (hplain : isPlainChar c = true) : readBack c = c := by
  by_cases hreturn : c = '\r'
  · rw [hreturn]
    decide
  · exact readBack_eq_self (readAlike_of_plain hplain hreturn)

/-- The name of a character is a reference to what it is read as. -/
theorem isReference_of_nameOf {c : Char} {name : Text} (hname : entity2char.nameOf c = some name) :
    IsReference standardEntities (readBack c) ('&' :: (name ++ [';'])) := by
  have hnames : ∀ entry ∈ entityEntries, standardCharacter entry.2 = readBack entry.2 := by
    decide +kernel
  have hmem := NamedCharacters.mem_of_nameOf hname
  rw [← hnames _ hmem]
  exact isReference_of_mem (List.mem_map.mpr ⟨_, hmem, rfl⟩)

/-- A character that is not written by a name is read as its number is. -/
theorem readBack_of_unnamed {c : Char}
    (hname : (if c = '\'' then none else entity2char.nameOf c) = none) :
    readBack c = numberedChar c.toNat := by
  have hbrackets : entity2char.nameOf (Char.ofNat 9001) = some "lang".toList ∧
      entity2char.nameOf (Char.ofNat 9002) = some "rang".toList := by decide +kernel
  refine if_pos (standardCharacter_eq_self (fun hcode ↦ ?_) fun hcode ↦ ?_)
  · rw [← Char.ofNat_toNat c, hcode, if_neg (by decide), hbrackets.1] at hname
    cases hname
  · rw [← Char.ofNat_toNat c, hcode, if_neg (by decide), hbrackets.2] at hname
    cases hname

/-- A character stays, and is no `&`, or becomes a reference to what it is read as. -/
theorem encodeChar_cases (c : Char) :
    (encodeChar c = [c] ∧ c ≠ '&' ∧ readBack c = c) ∨
      IsReference standardEntities (readBack c) (encodeChar c) := by
  have hdigit : ∀ d < 16,
      hexValue (hexDigit d) = some d ∧ isReferenceChar (hexDigit d) = true := by decide
  rw [encodeChar]
  by_cases hplain : isPlainChar c = true
  · refine .inl ⟨if_pos hplain, ?_, readBack_of_plain hplain⟩
    rintro rfl
    exact absurd hplain (by decide)
  · rw [if_neg hplain]
    refine .inr ?_
    unfold char2entity
    split
    · next name hname =>
      split_ifs at hname with hquote
      exact isReference_of_nameOf hname
    · next hname =>
      rw [readBack_of_unnamed hname]
      split_ifs with hcode
      · exact isReference_decimal c.toNat
      · exact isReference_hexadecimal hdigit c.toNat

/-- What is encoded is read back character by character. -/
theorem resolveReferences_encodeEntities (t : Text) :
    resolveReferences standardEntities (encodeEntities t) = t.map readBack :=
  resolveReferences_encode encodeChar_cases t

/-- No value ends the quotes it stands in. -/
theorem quote_not_mem_encodeEntities (t : Text) : '\'' ∉ encodeEntities t := by
  intro hmem
  obtain ⟨c, -, hquote⟩ := List.mem_flatMap.mp hmem
  rcases encodeChar_cases c with ⟨hself, -, -⟩ | hreference
  · rw [hself, List.mem_singleton] at hquote
    have hencoded : encodeChar '\'' = "&#39;".toList := by decide +kernel
    rw [← hquote, hencoded] at hself
    exact absurd hself (by decide)
  · exact hreference.not_mem (by decide) (by decide) (by decide) hquote

/-! ### Start tags -/

/-- A start tag as the parser gives it: its name, whether the slash of an empty element is at the
end of the name, and attributes of different names, of which a slash alone is one. Names are in
lower case. -/
structure StartTag where
  name : Text
  slash : Bool
  attributes : List (Text × Text)
  name_first : name.head?.any Char.isAlpha = true
  name_chars : ∀ c ∈ name, isTagNameChar c = true
  keys_nodup : (attributes.map Prod.fst).Nodup
  keys_some : ∀ entry ∈ attributes, entry.1 ≠ []
  keys_chars : ∀ entry ∈ attributes, entry.1 ≠ ['/'] →
    ∀ c ∈ entry.1, isAttributeNameChar c = true

namespace StartTag

/-- `$tag`. -/
def tagname (tag : StartTag) : Text := tag.name ++ if tag.slash then ['/'] else []

/-- The attributes by name. -/
def values (tag : StartTag) : Attributes := fun key ↦ tag.attributes.lookup key

/-- `cmp` says that the first text does not come after the second. -/
def notAfter : Text → Text → Bool
  | [], _ => true
  | _ :: _, [] => false
  | c :: s, d :: t => c.toNat < d.toNat || (c = d && notAfter s t)

/-- The names of the attributes, `reverse sort keys`. -/
def keys (tag : StartTag) : List Text :=
  ((tag.attributes.map Prod.fst).mergeSort notAfter).reverse

/-- An attribute as `start_tag` writes it; the slash of an empty tag is one. -/
def attributeText (attrs : Attributes) (key : Text) : Text :=
  if key = ['/'] then key
  else key ++ '=' :: '\'' :: (encodeEntities ((attrs key).getD []) ++ ['\''])

/-- `start_tag`, for a base URI. -/
def text (lib : UriLibrary) (baseUri : Text) (tag : StartTag) : Text :=
  '<' :: (tag.tagname ++ ' ' ::
    ([' '].intercalate (tag.keys.map (attributeText (startTag lib baseUri tag.values))) ++ ['>']))

theorem keys_perm (tag : StartTag) : tag.keys.Perm (tag.attributes.map Prod.fst) :=
  (List.reverse_perm _).trans (List.mergeSort_perm _ _)

/-- The names are those of the attributes that have values. -/
theorem mem_keys_iff (tag : StartTag) (key : Text) : key ∈ tag.keys ↔ tag.values key ≠ none := by
  rw [tag.keys_perm.mem_iff, values, Ne, List.lookup_eq_none_iff]
  constructor
  · rintro hkey hnone
    obtain ⟨entry, hentry, rfl⟩ := List.mem_map.mp hkey
    simpa using hnone entry hentry
  · intro hsome
    by_contra hkey
    refine hsome fun entry hentry ↦ ?_
    have hother : key ≠ entry.1 := fun hsame ↦ hkey (List.mem_map.mpr ⟨entry, hentry, hsame.symm⟩)
    simpa using hother

/-- What stands between the quotes for an attribute. -/
def writtenValue (attrs : Attributes) (key : Text) : Text := encodeEntities ((attrs key).getD [])

/-- What is read of attributes that were written: nothing of the slash. -/
def writtenAttributes (attrs : Attributes) (keys : List Text) : List (Text × Text) :=
  (keys.filter (· ≠ ['/'])).map fun key ↦ (key, writtenValue attrs key)

/-- An attribute with a value is read up to the mark after it. -/
theorem readAttributes_attributeText {attrs : Attributes} {key : Text} (hslash : key ≠ ['/'])
    (hnil : key ≠ []) (hkey : ∀ c ∈ key, isAttributeNameChar c = true) (t : Text) :
    readAttributes .between (attributeText attrs key ++ t) =
      withAttribute key (writtenValue attrs key) (readAttributes .between t) := by
  have hvalued := readAttributes_valued hnil hkey
    (quote_not_mem_encodeEntities ((attrs key).getD [])) t
  rw [attributeText, if_neg hslash, writtenValue, ← hvalued]
  simp

/-- The attributes are read one after the other. -/
theorem readAttributes_keys {attrs : Attributes} {keys : List Text}
    (hkeys : ∀ key ∈ keys, key ≠ [] ∧
      (key ≠ ['/'] → ∀ c ∈ key, isAttributeNameChar c = true)) (rest : Text) :
    readAttributes .between ([' '].intercalate (keys.map (attributeText attrs)) ++ '>' :: rest) =
      some (writtenAttributes attrs keys, rest) := by
  induction keys with
  | nil => rfl
  | cons key keys ih =>
    obtain ⟨⟨hnil, hchars⟩, hrest⟩ := List.forall_mem_cons.mp hkeys
    -- what stands after the attribute: a blank and the others, or the end of the tag
    obtain ⟨after, htext, hafter⟩ : ∃ after,
        [' '].intercalate ((key :: keys).map (attributeText attrs)) ++ '>' :: rest =
          attributeText attrs key ++ after ∧
        readAttributes .between after = some (writtenAttributes attrs keys, rest) := by
      cases keys with
      | nil => exact ⟨'>' :: rest, by simp [List.intercalate], rfl⟩
      | cons next keys =>
        refine ⟨' ' :: ([' '].intercalate ((next :: keys).map (attributeText attrs)) ++
          '>' :: rest), by simp [List.intercalate], ?_⟩
        rw [readAttributes_skip (.inl rfl), ih hrest]
    rw [htext]
    by_cases hslash : key = ['/']
    · rw [attributeText, if_pos hslash, hslash, List.singleton_append,
        readAttributes_skip (.inr rfl), hafter]
      rfl
    · rw [readAttributes_attributeText hslash hnil (hchars hslash), hafter]
      simp [writtenAttributes, withAttribute, hslash]

/-- What a reader gets of a tag that was written, whatever follows it. -/
theorem readStartTag_text (lib : UriLibrary) (baseUri : Text) (tag : StartTag) (rest : Text) :
    readStartTag standardEntities (tag.text lib baseUri ++ rest) = some (tag.name,
      (writtenAttributes (startTag lib baseUri tag.values) tag.keys).map
        fun (key, value) ↦ (key, resolveReferences standardEntities value), rest) := by
  have hkeys : ∀ key ∈ tag.keys, key ≠ [] ∧
      (key ≠ ['/'] → ∀ c ∈ key, isAttributeNameChar c = true) := by
    intro key hkey
    obtain ⟨entry, hentry, rfl⟩ := List.mem_map.mp (tag.keys_perm.mem_iff.mp hkey)
    exact ⟨tag.keys_some entry hentry, tag.keys_chars entry hentry⟩
  have hread := @readAttributes_keys (startTag lib baseUri tag.values) _ hkeys rest
  cases hslash : tag.slash with
  | false =>
    have htag := @readStartTag_name standardEntities _ tag.name_first tag.name_chars _ (.inl rfl)
      _ _ _ hread
    simpa [text, tagname, hslash] using htag
  | true =>
    have hskip := (readAttributes_skip (.inl rfl) _).trans hread
    have htag := @readStartTag_name standardEntities _ tag.name_first tag.name_chars _ (.inr rfl)
      _ _ _ hskip
    simpa [text, tagname, hslash] using htag

end StartTag

theorem lookup_map_key {keys : List Text} (value : Text → Text) (key : Text) :
    (keys.map fun key ↦ (key, value key)).lookup key =
      if key ∈ keys then some (value key) else none := by
  induction keys with
  | nil => rfl
  | cons first keys ih =>
    by_cases hfirst : key = first
    · subst hfirst
      simp
    · have hne : (key == first) = false := by simpa using hfirst
      simp [List.lookup_cons, hne, ih, hfirst]

/-- `start_tag` changes no attribute's being there. -/
theorem startTag_eq_none_iff (lib : UriLibrary) (baseUri : Text) (attrs : Attributes) (key : Text) :
    startTag lib baseUri attrs key = none ↔ attrs key = none := by
  rw [startTag]
  split_ifs
  · exact Option.map_eq_none_iff
  · exact Iff.rfl

/-- The value that a reader gets of an attribute. -/
theorem lookup_written (lib : UriLibrary) (baseUri : Text) (tag : StartTag) {key : Text}
    (hslash : key ≠ ['/']) :
    ((StartTag.writtenAttributes (startTag lib baseUri tag.values) tag.keys).map
      fun (key, value) ↦ (key, resolveReferences standardEntities value)).lookup key =
        (startTag lib baseUri tag.values key).map (List.map readBack) := by
  have hnone : startTag lib baseUri tag.values key = none ↔ key ∉ tag.keys := by
    rw [startTag_eq_none_iff, tag.mem_keys_iff, not_not]
  have hfilter : key ∈ tag.keys.filter (· ≠ ['/']) ↔ key ∈ tag.keys := by simp [hslash]
  have hlookup := @lookup_map_key (tag.keys.filter (· ≠ ['/'])) (fun key ↦ resolveReferences
    standardEntities (StartTag.writtenValue (startTag lib baseUri tag.values) key)) key
  rw [StartTag.writtenAttributes, List.map_map]
  refine hlookup.trans ?_
  simp only [hfilter]
  split_ifs with hkey
  · obtain ⟨value, hvalue⟩ := Option.ne_none_iff_exists'.mp fun h ↦ hnone.mp h hkey
    rw [StartTag.writtenValue, resolveReferences_encodeEntities, hvalue, Option.getD_some,
      Option.map_some]
  · rw [hnone.mpr hkey, Option.map_none]

/-- A reader of a start tag that the proxy has written gets its name, the names of its attributes,
the rewritten values, where they have no character that readers take for another, and what follows
the tag. -/
theorem startTag_read_back (lib : UriLibrary) (baseUri : Text) (tag : StartTag) (rest : Text) :
    ∃ attributes, readStartTag standardEntities (tag.text lib baseUri ++ rest) =
        some (tag.name, attributes, rest) ∧
      (attributes.map Prod.fst).Perm ((tag.attributes.map Prod.fst).filter (· ≠ ['/'])) ∧
      ∀ key ≠ ['/'], ∀ value, startTag lib baseUri tag.values key = some value →
        (∀ c ∈ value, ReadAlike c) → attributes.lookup key = some value := by
  refine ⟨_, tag.readStartTag_text lib baseUri rest, ?_, fun key hslash value hvalue halike ↦ ?_⟩
  · rw [StartTag.writtenAttributes, List.map_map, List.map_map]
    exact (List.Perm.of_eq (List.map_id _)).trans (tag.keys_perm.filter _)
  · rw [lookup_written lib baseUri tag hslash, hvalue, Option.map_some,
      map_readBack_eq_self halike]

/-! ### Pages in UTF-8 -/

/-- The parser takes the bytes of a page for characters: a value that a page in UTF-8 has arrives as
it was exactly when it is ASCII. -/
theorem utf8Value_arrives_iff (lib : UriLibrary) (baseUri : Text) {tag : StartTag}
    {key value : Text} (hvalue : tag.values key = some (utf8 value))
    (htext : ∀ c ∈ value, c.toNat ≠ 0 ∧ c ≠ '\r') (hother : key ∉ uriAttributes)
    (hslash : key ≠ ['/']) (rest : Text) :
    (∃ attributes, readStartTag standardEntities (tag.text lib baseUri ++ rest) =
        some (tag.name, attributes, rest) ∧ attributes.lookup key = some value) ↔
      IsAscii value := by
  have hread := tag.readStartTag_text lib baseUri rest
  have hsame : startTag lib baseUri tag.values key = some (utf8 value) := by
    rw [startTag, if_neg hother, hvalue]
  have hfound := lookup_written lib baseUri tag hslash
  rw [hsame, Option.map_some] at hfound
  constructor
  · rintro ⟨others, hothers, harrived⟩
    have hpair := Option.some.inj (hread.symm.trans hothers)
    have heq := (Prod.mk.inj (Prod.mk.inj hpair).2).1
    rw [← heq, hfound] at harrived
    have hlength := congrArg List.length (Option.some.inj harrived)
    rw [List.length_map] at hlength
    exact (length_utf8_eq_iff value).mp hlength
  · intro hascii
    have halike : ∀ c ∈ value, ReadAlike c := fun c hc ↦ by
      have hcode := hascii c hc
      exact ⟨(htext c hc).1, (htext c hc).2, .inl hcode, by omega, by omega⟩
    rw [utf8_of_ascii hascii, map_readBack_eq_self halike] at hfound
    exact ⟨_, hread, hfound⟩

/-- An image with an alternative text, `&eacute;` in UTF-8. -/
def accentedImage : StartTag where
  name := "img".toList
  slash := false
  attributes := [("alt".toList, [Char.ofNat 195, Char.ofNat 169])]
  name_first := by decide
  name_chars := by decide
  keys_nodup := by decide
  keys_some := by decide
  keys_chars := by decide

theorem utf8Value_arrives_iff_accentedImage :
    accentedImage.values "alt".toList = some (utf8 [Char.ofNat 233]) ∧
      ¬ IsAscii [Char.ofNat 233] ∧
      ¬ ∃ attributes, readStartTag standardEntities (accentedImage.text genericSyntax [] ++ []) =
        some (accentedImage.name, attributes, []) ∧
        attributes.lookup "alt".toList = some [Char.ofNat 233] := by
  have hvalue : accentedImage.values "alt".toList = some (utf8 [Char.ofNat 233]) := by
    decide +kernel
  have hascii : ¬ IsAscii [Char.ofNat 233] := by decide
  have harrives := utf8Value_arrives_iff genericSyntax [] hvalue (by decide) (by decide)
    (by decide) []
  exact ⟨hvalue, hascii, fun harrived ↦ hascii (harrives.mp harrived)⟩

end Ec2Wrappers.Microproxy
