import Ec2Wrappers.Foundations.Numerals

/-!
# Query strings

A list of names with values as one text: `name=value` pieces with `&` between them. Names and
values are quoted so that neither mark occurs in them. `Quotes` says what a quoting has to do for
the reading to get them back, and `readQuery_writeQuery` is the round trip; a query is read on both
sides of an `&` (`readQuery_append_cons`).

`percentQuote safe` is the quoting of the library: letters, digits, `_`, `.`, `-` and the characters
of `safe` stand for themselves, and every other byte is escaped. A reader of forms takes a plus sign
for a blank before it unescapes, which makes no difference here (`quotes_percentQuote`).

A list of values is sent under numbered names, and read back from them (`readNumbered_eq`).
-/

set_option autoImplicit false
set_option relaxedAutoImplicit false

namespace Ec2Wrappers.Foundations

/-! ### Pieces -/

/-- The quoting is undone by reading on the plain texts, and writes neither mark. -/
structure Quotes (quote unquote : Text → Text) (IsPlain : Text → Prop) : Prop where
  read_back : ∀ t, IsPlain t → unquote (quote t) = t
  ampersand_not_mem : ∀ t, '&' ∉ quote t
  equals_not_mem : ∀ t, '=' ∉ quote t

/-- A name with its value. -/
def writePiece (quoteName quoteValue : Text → Text) (pair : Text × Text) : Text :=
  quoteName pair.1 ++ '=' :: quoteValue pair.2

/-- The names with their values. -/
def writeQuery (quoteName quoteValue : Text → Text) (pairs : List (Text × Text)) : Text :=
  ['&'].intercalate (pairs.map (writePiece quoteName quoteValue))

/-- A piece is read up to its first equals sign and from there. -/
def readPiece (unquote : Text → Text) (piece : Text) : Text × Text :=
  (unquote (piece.takeWhile (· ≠ '=')), unquote ((piece.dropWhile (· ≠ '=')).drop 1))

/-- The pieces of a query. -/
def readQuery (unquote : Text → Text) (query : Text) : List (Text × Text) :=
  (query.splitOn '&').map (readPiece unquote)

/-- A query is read on both sides of a mark. -/
theorem readQuery_append_cons (unquote : Text → Text) (before after : Text) :
    readQuery unquote (before ++ '&' :: after) =
      readQuery unquote before ++ readQuery unquote after := by
  rw [readQuery, List.splitOn_append_cons_self, List.map_append, ← readQuery, ← readQuery]

/-- A character that is no mark and that quoting does not write is not in a query. -/
theorem not_mem_writeQuery {quoteName quoteValue : Text → Text} {c : Char} (hampersand : c ≠ '&')
    (hequals : c ≠ '=') (hname : ∀ t, c ∉ quoteName t) (hvalue : ∀ t, c ∉ quoteValue t)
    (pairs : List (Text × Text)) : c ∉ writeQuery quoteName quoteValue pairs := by
  have hpiece (pair : Text × Text) : c ∉ writePiece quoteName quoteValue pair := by
    simp [writePiece, hname, hvalue, hequals]
  unfold writeQuery
  induction pairs with
  | nil => simp
  | cons pair rest ih =>
    cases rest with
    | nil => simpa using hpiece pair
    | cons next rest =>
      rw [List.map_cons, List.map_cons, List.intercalate_cons_cons, ← List.map_cons]
      simp only [List.mem_append, List.mem_singleton, not_or]
      exact ⟨⟨hpiece pair, hampersand⟩, ih⟩

section Quotes

variable {quoteName quoteValue unquote : Text → Text} {IsName IsValue : Text → Prop}

/-- A piece is read back. -/
theorem readPiece_writePiece (hnames : Quotes quoteName unquote IsName)
    (hvalues : Quotes quoteValue unquote IsValue) {pair : Text × Text} (hname : IsName pair.1)
    (hvalue : IsValue pair.2) :
    readPiece unquote (writePiece quoteName quoteValue pair) = pair := by
  have hbefore : ∀ c ∈ quoteName pair.1, decide (c ≠ '=') = true := by
    intro c hc
    have hne : c ≠ '=' := fun heq ↦ hnames.equals_not_mem pair.1 (heq ▸ hc)
    exact decide_eq_true hne
  have hmark : decide ('=' ≠ '=') = false := by decide
  rw [readPiece, writePiece, takeWhile_at_failure hbefore hmark, dropWhile_at_failure hbefore hmark,
    List.drop_one, List.tail_cons, hnames.read_back _ hname, hvalues.read_back _ hvalue]

/-- A piece has no mark between pieces. -/
theorem ampersand_not_mem_writePiece (hnames : Quotes quoteName unquote IsName)
    (hvalues : Quotes quoteValue unquote IsValue) (pair : Text × Text) :
    '&' ∉ writePiece quoteName quoteValue pair := by
  intro hmem
  rw [writePiece, List.mem_append, List.mem_cons] at hmem
  rcases hmem with hname | hmark | hvalue
  · exact hnames.ampersand_not_mem pair.1 hname
  · cases hmark
  · exact hvalues.ampersand_not_mem pair.2 hvalue

/-- A query is read back. -/
theorem readQuery_writeQuery (hnames : Quotes quoteName unquote IsName)
    (hvalues : Quotes quoteValue unquote IsValue) {pairs : List (Text × Text)}
    (hpairs : pairs ≠ []) (hplain : ∀ pair ∈ pairs, IsName pair.1 ∧ IsValue pair.2) :
    readQuery unquote (writeQuery quoteName quoteValue pairs) = pairs := by
  have hpieces : ∀ piece ∈ pairs.map (writePiece quoteName quoteValue), '&' ∉ piece := by
    intro piece hpiece
    obtain ⟨pair, -, rfl⟩ := List.mem_map.mp hpiece
    exact ampersand_not_mem_writePiece hnames hvalues pair
  rw [readQuery, writeQuery, List.splitOn_intercalate '&' hpieces (by simpa using hpairs),
    List.map_map]
  refine (List.map_congr_left fun pair hpair ↦ ?_).trans (List.map_id pairs)
  exact readPiece_writePiece hnames hvalues (hplain pair hpair).1 (hplain pair hpair).2

end Quotes

/-! ### Percent quoting -/

/-- The characters that are always safe. -/
def isAlwaysSafe (c : Char) : Bool := c.isAlphanum || c = '_' || c = '.' || c = '-'

/-- `urllib.quote(t, safe)` of a text of bytes. -/
def percentQuote (safe t : Text) : Text := escape (fun c ↦ isAlwaysSafe c || c ∈ safe) t

/-- A text of bytes. -/
def IsByteText (t : Text) : Prop := ∀ c ∈ t, c.toNat < 256

instance (t : Text) : Decidable (IsByteText t) := inferInstanceAs (Decidable (∀ c ∈ t, _))

/-- A plus sign stands for a blank. -/
def plusToBlank (c : Char) : Char := if c = '+' then ' ' else c

/-- How a reader of forms unquotes. -/
def unquotePlus (t : Text) : Text := unescape (t.map plusToBlank)

/-- What is escaped is read back, when the percent sign is escaped too. -/
theorem unescape_escape_self {keep : Char → Bool} (hpercent : keep '%' = false) {t : Text}
    (hbytes : IsByteText t) : unescape (escape keep t) = t := by
  induction t with
  | nil => rfl
  | cons c t ih =>
    obtain ⟨hbyte, hrest⟩ := List.forall_mem_cons.mp hbytes
    cases hkept : keep c with
    | true =>
      have hc : c ≠ '%' := by
        rintro rfl
        rw [hpercent] at hkept
        cases hkept
      rw [escape_cons_kept hkept, unescape_cons hc, ih hrest]
    | false =>
      rw [escape_cons_escaped hkept, escapeChar, if_pos hbyte, unescape_percentEscape hbyte,
        Char.ofNat_toNat, ih hrest]

/-- A mark that is not safe is escaped. -/
theorem not_mem_percentQuote {mark : Char} (hpercent : mark ≠ '%') (hhex : hexValue mark = none)
    {safe : Text} (hsafe : (isAlwaysSafe mark || mark ∈ safe) = false) (t : Text) :
    mark ∉ percentQuote safe t := by
  intro hmem
  rcases mem_escape hmem with ⟨-, hkept⟩ | hmark | hdigit
  · rw [hsafe] at hkept
    cases hkept
  · exact hpercent hmark
  · rw [hhex] at hdigit
    cases hdigit

/-- The quoting is undone by a reader of forms. -/
theorem quotes_percentQuote {safe : Text} (hsafe : ∀ c ∈ "%+&=".toList, c ∉ safe) :
    Quotes (percentQuote safe) unquotePlus IsByteText := by
  have hmark (mark : Char) (hmark : mark ∈ "%+&=".toList) (halways : isAlwaysSafe mark = false) :
      (isAlwaysSafe mark || mark ∈ safe) = false := by
    simp [halways, hsafe mark hmark]
  have hampersand := hmark '&' (by decide) (by decide)
  have hequals := hmark '=' (by decide) (by decide)
  have hplus := hmark '+' (by decide) (by decide)
  refine ⟨fun t hbytes ↦ ?_, not_mem_percentQuote (by decide) (by decide) hampersand,
    not_mem_percentQuote (by decide) (by decide) hequals⟩
  have hno : '+' ∉ percentQuote safe t := not_mem_percentQuote (by decide) (by decide) hplus t
  have hsame : (percentQuote safe t).map plusToBlank = percentQuote safe t := by
    refine (List.map_congr_left fun c hc ↦ ?_).trans (List.map_id _)
    have hne : c ≠ '+' := by
      rintro rfl
      exact hno hc
    exact if_neg hne
  rw [unquotePlus, hsame]
  exact unescape_escape_self (hmark '%' (by decide) (by decide)) hbytes

/-! ### Lists of values -/

/-- The name of an item of a list. -/
def numbered (label : Text) (index : ℕ) : Text := label ++ '.' :: numeral Nat.digitChar 10 index

theorem prefix_numbered (label : Text) (index : ℕ) : label <+: numbered label index :=
  List.prefix_append _ _

/-- Different items have different names. -/
theorem numbered_injective (label : Text) : Function.Injective (numbered label) := by
  intro first second hsame
  have hnumerals := (List.cons.inj (List.append_cancel_left hsame)).2
  have hread (number : ℕ) := @readNumeral_numeral Nat.digitChar decimalValue 10 (by decide)
    (fun _ ↦ decimalValue_digitChar) number
  exact Option.some.inj ((hread first).symm.trans ((congrArg _ hnumerals).trans (hread second)))

/-- The items of a list, from an index on, as far as they go. -/
def readNumbered (value? : Text → Option Text) (label : Text) : ℕ → ℕ → List Text
  | 0, _ => []
  | fuel + 1, index =>
    match value? (numbered label index) with
    | some value => value :: readNumbered value? label fuel (index + 1)
    | none => []

/-- A list whose items have their names is read back. -/
theorem readNumbered_eq {value? : Text → Option Text} {label : Text} {items : List Text}
    {fuel start : ℕ} (hfuel : items.length ≤ fuel)
    (hitems : ∀ offset, value? (numbered label (start + offset)) = items[offset]?) :
    readNumbered value? label fuel start = items := by
  induction items generalizing fuel start with
  | nil =>
    cases fuel with
    | zero => rfl
    | succ fuel =>
      have hfirst : value? (numbered label start) = none := hitems 0
      rw [readNumbered, hfirst]
  | cons item items ih =>
    obtain ⟨fuel, rfl⟩ := Nat.exists_eq_succ_of_ne_zero (Nat.ne_zero_of_lt hfuel)
    have hfirst : value? (numbered label start) = some item := hitems 0
    rw [readNumbered, hfirst]
    refine congrArg (item :: ·) (ih (Nat.le_of_succ_le_succ hfuel) fun offset ↦ ?_)
    rw [Nat.add_assoc, Nat.add_comm 1 offset, hitems]
    exact List.getElem?_cons_succ

end Ec2Wrappers.Foundations
