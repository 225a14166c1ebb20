import Ec2Wrappers.Foundations.Tables
import Ec2Wrappers.Foundations.Text

/-!
# Reports of a fixed width, and the table they keep

Several processes write reports of one width to a pipe, and one process reads the pipe and keeps in
a table the last report of each of them. `bigEndian` and `ofBigEndian` are the numbers inside a
report. `cutEvery` cuts what was read into pieces of the width: a pipe to which only whole reports
are written, and from which whole multiples of the width are read, holds whole reports at all times
(`cutEvery_take_flatten`).

`settled table reports` is the table once the reports that are still under way have been read. It
does not depend on how many of them have been read already (`settled_append`), so it is the
quantity to follow along a run.
-/

set_option autoImplicit false
set_option relaxedAutoImplicit false

namespace Ec2Wrappers.Foundations

/-! ### Numbers of a fixed width -/

/-- The number in so many bytes, the most significant one first; what does not fit is lost. -/
def bigEndian : ℕ → ℕ → Text
  | 0, _ => []
  | width + 1, number => bigEndian width (number / 256) ++ [Char.ofNat (number % 256)]

/-- The number that the bytes are. -/
def ofBigEndian (bytes : Text) : ℕ := bytes.foldl (fun number byte ↦ 256 * number + byte.toNat) 0

@[simp] theorem length_bigEndian (width number : ℕ) : (bigEndian width number).length = width := by
  induction width generalizing number with
  | zero => rfl
  | succ width ih => simp [bigEndian, ih]

theorem toNat_ofNat_of_lt {number : ℕ} (hbyte : number < 256) :
    (Char.ofNat number).toNat = number := by
  have hvalid : number.isValidChar := Or.inl (by omega)
  rw [Char.ofNat, dif_pos hvalid]
  rfl

theorem ofBigEndian_concat (bytes : Text) (byte : Char) :
    ofBigEndian (bytes ++ [byte]) = 256 * ofBigEndian bytes + byte.toNat := by
  simp [ofBigEndian, List.foldl_append]

/-- A number that fits is read back. -/
theorem ofBigEndian_bigEndian {width number : ℕ} (hfits : number < 256 ^ width) :
    ofBigEndian (bigEndian width number) = number := by
  induction width generalizing number with
  | zero => simp only [pow_zero, Nat.lt_one_iff] at hfits; subst hfits; rfl
  | succ width ih =>
    have hhigh : number / 256 < 256 ^ width :=
      Nat.div_lt_of_lt_mul (by rw [← pow_succ']; exact hfits)
    have hlow : number % 256 < 256 := Nat.mod_lt _ (by decide)
    rw [bigEndian, ofBigEndian_concat, ih hhigh, toNat_ofNat_of_lt hlow]
    exact Nat.div_add_mod number 256

/-! ### Pieces of a fixed width -/

section Pieces

variable {Item : Type*}

/-- The pieces that are cut off the front one after another, the last one being shorter where the
length is no multiple of the width. -/
def cutEvery (width : ℕ) (items : List Item) : List (List Item) := go items.length items
where
  go : ℕ → List Item → List (List Item)
  | 0, _ => []
  | _ + 1, [] => []
  | fuel + 1, items => items.take width :: go fuel (items.drop width)

theorem cutEvery_go_flatten {width : ℕ} (hwidth : 0 < width) {pieces : List (List Item)}
    (hpieces : ∀ piece ∈ pieces, piece.length = width) {fuel : ℕ} (hfuel : pieces.length ≤ fuel) :
    cutEvery.go width fuel pieces.flatten = pieces := by
  induction pieces generalizing fuel with
  | nil => cases fuel <;> rfl
  | cons piece rest ih =>
    obtain ⟨hpiece, hrest⟩ := List.forall_mem_cons.mp hpieces
    cases fuel with
    | zero => exact absurd hfuel (by simp)
    | succ fuel =>
      have hnonempty : (piece :: rest).flatten ≠ [] := by
        intro hempty
        rw [List.flatten_cons, List.append_eq_nil_iff] at hempty
        rw [hempty.1] at hpiece
        exact absurd hpiece (by simp [hwidth.ne])
      have htake : (piece :: rest).flatten.take width = piece := by
        rw [List.flatten_cons, ← hpiece, List.take_left]
      have hdrop : (piece :: rest).flatten.drop width = rest.flatten := by
        rw [List.flatten_cons, ← hpiece, List.drop_left]
      rw [cutEvery.go.eq_3 _ _ _ hnonempty, htake, hdrop,
        ih hrest (Nat.le_of_succ_le_succ hfuel)]

theorem length_flatten_of_width {width : ℕ} {pieces : List (List Item)}
    (hpieces : ∀ piece ∈ pieces, piece.length = width) :
    pieces.flatten.length = pieces.length * width := by
  induction pieces with
  | nil => simp
  | cons piece rest ih =>
    obtain ⟨hpiece, hrest⟩ := List.forall_mem_cons.mp hpieces
    rw [List.flatten_cons, List.length_append, hpiece, ih hrest, List.length_cons, Nat.succ_mul,
      Nat.add_comm]

/-- Pieces of the width are cut where they were joined. -/
theorem cutEvery_flatten {width : ℕ} (hwidth : 0 < width) {pieces : List (List Item)}
    (hpieces : ∀ piece ∈ pieces, piece.length = width) :
    cutEvery width pieces.flatten = pieces := by
  refine cutEvery_go_flatten hwidth hpieces ?_
  rw [length_flatten_of_width hpieces]
  exact Nat.le_mul_of_pos_right _ hwidth

/-- Reading a multiple of the width reads whole pieces. -/
theorem take_flatten_of_width {width : ℕ} {pieces : List (List Item)}
    (hpieces : ∀ piece ∈ pieces, piece.length = width) (count : ℕ) :
    pieces.flatten.take (count * width) = (pieces.take count).flatten ∧
      pieces.flatten.drop (count * width) = (pieces.drop count).flatten := by
  induction pieces generalizing count with
  | nil => simp
  | cons piece rest ih =>
    obtain ⟨hpiece, hrest⟩ := List.forall_mem_cons.mp hpieces
    cases count with
    | zero => simp
    | succ count =>
      have hmore : (count + 1) * width = piece.length + count * width := by
        rw [hpiece, Nat.succ_mul, Nat.add_comm]
      obtain ⟨htake, hdrop⟩ := ih hrest count
      rw [hmore, List.flatten_cons, List.take_length_add_append, List.drop_length_add_append,
        htake, hdrop]
      exact ⟨rfl, rfl⟩

/-- What is read of a pipe with whole pieces is cut into the first pieces. -/
theorem cutEvery_take_flatten {width : ℕ} (hwidth : 0 < width) {pieces : List (List Item)}
    (hpieces : ∀ piece ∈ pieces, piece.length = width) (count : ℕ) :
    cutEvery width (pieces.flatten.take (count * width)) = pieces.take count := by
  rw [(take_flatten_of_width hpieces count).1]
  exact cutEvery_flatten hwidth fun piece hpiece ↦ hpieces piece (List.mem_of_mem_take hpiece)

end Pieces

/-! ### The table that the reports keep -/

namespace Table

variable {Row Key : Type} {key : Row → Key} [DecidableEq Key]

/-- The table once the reports have been read. -/
def settled (table : Table key) (reports : List Row) : Table key :=
  reports.foldl insertOrReplace table

/-- Reading some of the reports does not change what the table settles to. -/
theorem settled_append (table : Table key) (read unread : List Row) :
    (table.settled read).settled unread = table.settled (read ++ unread) :=
  List.foldl_append.symm

/-- One more report is written. -/
theorem find_settled_concat (table : Table key) (reports : List Row) (report : Row)
    (sought : Key) :
    (table.settled (reports ++ [report])).find sought =
      if sought = key report then some report else (table.settled reports).find sought := by
  rw [← settled_append]
  exact find_insertOrReplace _ _ _

/-- What is found depends on what the table has under the key, and on nothing else. -/
theorem find_settled_congr {table other : Table key} {sought : Key}
    (hsame : table.find sought = other.find sought) (reports : List Row) :
    (table.settled reports).find sought = (other.settled reports).find sought := by
  induction reports generalizing table other with
  | nil => exact hsame
  | cons report rest ih =>
    refine ih ?_
    rw [find_insertOrReplace, find_insertOrReplace, hsame]

/-- Reports under other keys change nothing. -/
theorem find_settled_of_not_mem (table : Table key) {reports : List Row} {sought : Key}
    (hother : ∀ report ∈ reports, key report ≠ sought) :
    (table.settled reports).find sought = table.find sought := by
  induction reports generalizing table with
  | nil => rfl
  | cons report rest ih =>
    obtain ⟨hreport, hrest⟩ := List.forall_mem_cons.mp hother
    have hsettled := ih (table.insertOrReplace report) hrest
    rw [find_insertOrReplace, if_neg (Ne.symm hreport)] at hsettled
    exact hsettled

/-- A row under another key can be deleted. -/
theorem find_delete_of_not {table : Table key} {condition : Row → Bool} {sought : Key}
    (hkept : ∀ row ∈ table.rows, key row = sought → condition row = false) :
    (table.delete condition).find sought = table.find sought := by
  cases hfind : table.find sought with
  | none =>
    rw [find_eq_none_iff] at hfind ⊢
    exact fun row hrow ↦ hfind row ((mem_delete _ _ _).mp hrow).1
  | some row =>
    obtain ⟨hrow, hkey⟩ := (find_eq_some_iff _ _ _).mp hfind
    exact (find_eq_some_iff _ _ _).mpr ⟨(mem_delete _ _ _).mpr ⟨hrow, hkept row hrow hkey⟩, hkey⟩

end Table

end Ec2Wrappers.Foundations
