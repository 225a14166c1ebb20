import Ec2Wrappers.Foundations.Numerals

/-!
# The chunked coding of message bodies

A chunked body is a sequence of chunks, each a size in hexadecimal digits, a line end, so many
characters and a line end, and a last chunk of size zero. `readChunked` reads one and says what
follows it. Chunks that are not empty, with the last chunk behind them, read back as what they
carry, whatever follows (`readChunked_writeChunks`), so that a reader finds the end of the body
without knowing its length.

`readHead` reads the lines in front of a body up to the empty one.
-/

set_option autoImplicit false
set_option relaxedAutoImplicit false

namespace Ec2Wrappers.Foundations

/-- The end of a line. -/
def crlf : Text := ['\r', '\n']

/-! ### Sizes -/

/-- The number as `%x` prints it. -/
def hexNumber (number : ℕ) : Text := numeral Nat.digitChar 16 number

/-- The number that hexadecimal digits are. -/
def readHexNumber (digits : Text) : Option ℕ := readNumeral hexValue 16 digits

theorem digitChar_ne_cr {value : ℕ} (hvalue : value < 16) : Nat.digitChar value ≠ '\r' := by
  interval_cases value <;> decide

/-- A size is read back. -/
theorem readHexNumber_hexNumber (number : ℕ) :
    readHexNumber (hexNumber number) = some number :=
  readNumeral_numeral (by decide) (fun _ hdigit ↦ hexValue_digitChar hdigit) number

theorem cr_not_mem_hexNumber (number : ℕ) : '\r' ∉ hexNumber number := by
  intro hmem
  obtain ⟨digit, hdigit, hc⟩ := exists_digit_of_mem_numeral (by decide) hmem
  exact digitChar_ne_cr hdigit hc.symm

/-! ### Lines -/

/-- The first line, and what follows its end. -/
def readLine : Text → Option (Text × Text)
  | [] => none
  | '\r' :: '\n' :: rest => some ([], rest)
  | c :: rest => (readLine rest).map fun (line, rest) ↦ (c :: line, rest)

theorem readLine_append {line : Text} (hline : '\r' ∉ line) (rest : Text) :
    readLine (line ++ (crlf ++ rest)) = some (line, rest) := by
  induction line with
  | nil => rfl
  | cons c line ih =>
    have hc : c ≠ '\r' := (List.ne_of_not_mem_cons hline).symm
    rw [List.cons_append, readLine, ih (List.not_mem_of_not_mem_cons hline)]
    · rfl
    · intro _ hsame
      exact absurd hsame hc

/-- The lines in front of the empty one, and what follows it. -/
def readHead (text : Text) : Option (List Text × Text) := go text.length text
where
  go : ℕ → Text → Option (List Text × Text)
  | 0, _ => none
  | fuel + 1, text => do
    let (line, rest) ← readLine text
    if line = [] then some ([], rest)
    else
      let (lines, rest) ← go fuel rest
      some (line :: lines, rest)

/-- Lines, and the empty line behind them. -/
def writeHead (lines : List Text) : Text := lines.flatMap (· ++ crlf) ++ crlf

/-- A line that ends where its end is written. -/
def IsLine (line : Text) : Prop := line ≠ [] ∧ '\r' ∉ line

instance (line : Text) : Decidable (IsLine line) :=
  inferInstanceAs (Decidable (line ≠ [] ∧ '\r' ∉ line))

theorem readHead_go_writeHead {lines : List Text} (hlines : ∀ line ∈ lines, IsLine line)
    (rest : Text) {fuel : ℕ} (hfuel : lines.length < fuel) :
    readHead.go fuel (writeHead lines ++ rest) = some (lines, rest) := by
  induction lines generalizing fuel with
  | nil =>
    obtain ⟨fuel, rfl⟩ := Nat.exists_eq_succ_of_ne_zero (Nat.ne_of_gt hfuel)
    rfl
  | cons line lines ih =>
    obtain ⟨⟨hnonempty, hline⟩, hrest⟩ := List.forall_mem_cons.mp hlines
    obtain ⟨fuel, rfl⟩ := Nat.exists_eq_succ_of_ne_zero (Nat.ne_of_gt (Nat.zero_lt_of_lt hfuel))
    have hread : readLine (writeHead (line :: lines) ++ rest) =
        some (line, writeHead lines ++ rest) := by
      rw [← readLine_append hline]
      simp [writeHead]
    have hmore := ih hrest (Nat.lt_of_succ_lt_succ hfuel)
    simp [readHead.go, hread, hnonempty, hmore]

theorem length_lt_length_writeHead (lines : List Text) (rest : Text) :
    lines.length < (writeHead lines ++ rest).length := by
  induction lines with
  | nil => simp [writeHead, crlf]
  | cons line lines ih =>
    have hmore : (writeHead (line :: lines) ++ rest).length =
        line.length + 2 + (writeHead lines ++ rest).length := by
      simp [writeHead, crlf]
      omega
    rw [hmore, List.length_cons]
    omega

/-- A head is read back, whatever follows. -/
theorem readHead_writeHead {lines : List Text} (hlines : ∀ line ∈ lines, IsLine line)
    (rest : Text) : readHead (writeHead lines ++ rest) = some (lines, rest) :=
  readHead_go_writeHead hlines rest (length_lt_length_writeHead lines rest)

/-! ### Chunks -/

/-- One chunk: `%x`, a line end, the data and a line end. -/
def writeChunk (data : Text) : Text := hexNumber data.length ++ (crlf ++ (data ++ crlf))

/-- The last chunk, without trailers. -/
def lastChunk : Text := '0' :: (crlf ++ crlf)

/-- A chunked body, and what follows it. -/
def readChunked (text : Text) : Option (Text × Text) := go text.length text
where
  go : ℕ → Text → Option (Text × Text)
  | 0, _ => none
  | fuel + 1, text => do
    let (line, rest) ← readLine text
    let size ← readHexNumber line
    let data := rest.take size
    let ([], rest) ← readLine (rest.drop size) | none
    if size = 0 then some ([], rest)
    else
      let (body, rest) ← go fuel rest
      some (data ++ body, rest)

theorem readChunked_go_lastChunk (fuel : ℕ) (rest : Text) :
    readChunked.go (fuel + 1) (lastChunk ++ rest) = some ([], rest) := rfl

theorem readChunked_go_writeChunk {data : Text} (hdata : data ≠ []) (fuel : ℕ) (rest : Text) :
    readChunked.go (fuel + 1) (writeChunk data ++ rest) =
      (readChunked.go fuel rest).map fun (body, rest) ↦ (data ++ body, rest) := by
  have hline : readLine (writeChunk data ++ rest) =
      some (hexNumber data.length, data ++ (crlf ++ rest)) := by
    rw [← readLine_append (cr_not_mem_hexNumber data.length)]
    simp [writeChunk]
  have hend : readLine (crlf ++ rest) = some ([], rest) := rfl
  have hsize : data.length ≠ 0 := fun hzero ↦ hdata (List.eq_nil_of_length_eq_zero hzero)
  simp only [readChunked.go, hline, Option.bind_eq_bind, Option.bind_some,
    readHexNumber_hexNumber, List.take_left, List.drop_left, hend, if_neg hsize]
  cases readChunked.go fuel rest <;> rfl

theorem readChunked_go_writeChunks {pieces : List Text} (hpieces : ∀ piece ∈ pieces, piece ≠ [])
    (rest : Text) {fuel : ℕ} (hfuel : pieces.length < fuel) :
    readChunked.go fuel (pieces.flatMap writeChunk ++ (lastChunk ++ rest)) =
      some (pieces.flatten, rest) := by
  induction pieces generalizing fuel with
  | nil =>
    obtain ⟨fuel, rfl⟩ := Nat.exists_eq_succ_of_ne_zero (Nat.ne_of_gt hfuel)
    exact readChunked_go_lastChunk fuel rest
  | cons piece pieces ih =>
    obtain ⟨hpiece, hrest⟩ := List.forall_mem_cons.mp hpieces
    obtain ⟨fuel, rfl⟩ := Nat.exists_eq_succ_of_ne_zero (Nat.ne_of_gt (Nat.zero_lt_of_lt hfuel))
    rw [List.flatMap_cons, List.append_assoc, readChunked_go_writeChunk hpiece,
      ih hrest (Nat.lt_of_succ_lt_succ hfuel)]
    rfl

theorem length_le_length_writeChunks (pieces : List Text) :
    pieces.length ≤ (pieces.flatMap writeChunk).length := by
  induction pieces with
  | nil => simp
  | cons piece pieces ih =>
    have hchunk : 1 ≤ (writeChunk piece).length := by
      simp [writeChunk, crlf]
      omega
    rw [List.flatMap_cons, List.length_append, List.length_cons]
    omega

/-- Chunks that are not empty and the last chunk are read back, whatever follows. -/
theorem readChunked_writeChunks {pieces : List Text} (hpieces : ∀ piece ∈ pieces, piece ≠ [])
    (rest : Text) :
    readChunked (pieces.flatMap writeChunk ++ (lastChunk ++ rest)) =
      some (pieces.flatten, rest) := by
  refine readChunked_go_writeChunks hpieces rest ?_
  have hlength := length_le_length_writeChunks pieces
  have hlast : lastChunk.length = 5 := rfl
  rw [List.length_append, List.length_append, hlast]
  omega

end Ec2Wrappers.Foundations
